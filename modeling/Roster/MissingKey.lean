import Roster.Text.Quoted

/-!
# Calls without a shard key

What a balancer does with a call from which no shard key can be read.
-/

namespace Roster

/-- What to do with a call that has no shard key. -/
inductive MissingKey where
  /-- Route it as if it had this key. -/
  | sentinel (key : String)
  | reject
  | random
  deriving DecidableEq, Repr

namespace MissingKey

/-- The key under which calls without one are routed unless a configuration says otherwise. -/
def defaultSentinel : String := "NOT_FOUND"

instance : Inhabited MissingKey := ⟨.sentinel defaultSentinel⟩

def name : MissingKey → String
  | sentinel _ => "sentinel"
  | reject => "reject"
  | random => "random"

def describe : MissingKey → String
  | sentinel key => "Sentinel(" ++ Text.quote key ++ ")"
  | reject => "Reject"
  | random => "Random"

end MissingKey

end Roster
