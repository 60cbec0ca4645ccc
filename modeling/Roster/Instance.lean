/-!
# Instances and changes

A member of a service is an instance: the service's name and the address at which the member
listens. Within one service the address alone tells members apart. A change says that a member
joined or left.
-/

namespace Roster

structure Instance where
  service : String
  address : String
  deriving DecidableEq, Repr, Inhabited

/-- An instance in one line: the service, an at sign, the address. -/
def Instance.render (i : Instance) : String :=
  i.service ++ "@" ++ i.address

inductive ChangeKind where
  | registered
  | deregistered
  deriving DecidableEq, Repr, Inhabited

def ChangeKind.name : ChangeKind → String
  | registered => "registered"
  | deregistered => "deregistered"

/-- A member that joined or left. -/
structure Change where
  member : Instance
  kind : ChangeKind
  deriving DecidableEq, Repr, Inhabited

def Change.joined (i : Instance) : Change := ⟨i, .registered⟩

def Change.departed (i : Instance) : Change := ⟨i, .deregistered⟩

@[simp] theorem Change.joined_member (i : Instance) : (Change.joined i).member = i := rfl

@[simp] theorem Change.departed_member (i : Instance) : (Change.departed i).member = i := rfl

end Roster
