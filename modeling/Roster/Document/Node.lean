/-!
# Document nodes

What a structured document says, apart from its notation: scalars, lists and records. A text is an
`Option String`, because an escape may spell half of a surrogate pair, which no sequence of
characters contains; such a text may be skipped over but not read.
-/

namespace Roster.Document

/-- A value in a structured document. -/
inductive Node where
  | null
  | bool (b : Bool)
  | integer (n : Int)
  /-- A number written with a fraction, an exponent or a minus sign before zero. -/
  | decimal
  | moment
  /-- A text, or `none` when it holds half of a surrogate pair. -/
  | text (s : Option String)
  | list (items : List Node)
  /-- Named values in the order of writing; a name may come twice. -/
  | record (fields : List (Option String × Node))
  deriving Inhabited

namespace Node

def text? : Node → Option String
  | text s => s
  | _ => none

def bool? : Node → Option Bool
  | bool b => some b
  | _ => none

/-- The natural number of a node, if it is at most `bound`. -/
def natUpTo? (bound : Nat) : Node → Option Nat
  | integer n => if 0 ≤ n ∧ n ≤ bound then some n.toNat else none
  | _ => none

def listOf? {α : Type} (read : Node → Option α) : Node → Option (List α)
  | list items => items.mapM read
  | _ => none

def isNull : Node → Bool
  | null => true
  | _ => false

end Node

end Roster.Document
