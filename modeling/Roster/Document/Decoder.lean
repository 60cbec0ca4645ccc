import Roster.Document.Node
import Roster.Table

/-!
# Reading structures out of nodes

A structure is written as a record, whose unknown fields are skipped, or as the list of its field
values. Fields that may be missing are of two kinds: an optional field is absent when a record
lacks it or says null, and a defaulted field takes its default when a record or a short list lacks
it. A choice among names is written as the name, or as a record with the name as its only field and
nothing in it. Notations differ in two points, which `Convention` holds.
-/

namespace Roster.Document

/-- The points in which notations differ when structures are read. -/
structure Convention where
  /-- Whether a field value stands for "nothing in it". -/
  isNothing : Node → Bool
  /-- Whether a list of field values may go on after the last field. -/
  allowsSurplus : Bool

structure Fields where
  /-- Whether the fields were named; if not, they were listed in order. -/
  named : Bool
  found : List (String × Option Node)

/-- The value of the first field of a name. -/
def valueOf? (name : String) (fields : List (Option String × Node)) : Option Node :=
  (fields.find? (·.1 == some name)).map Prod.snd

/-- Whether every name in a record is a text and no name in `names` comes twice. -/
def wellNamed (names : List String) (fields : List (Option String × Node)) : Bool :=
  fields.all (·.1.isSome) && names.all fun n => fields.countP (·.1 == some n) ≤ 1

def Node.fields? (c : Convention) (names : List String) : Node → Option Fields
  | .record fields =>
    if wellNamed names fields then some ⟨true, names.map fun n => (n, valueOf? n fields)⟩ else none
  | .list items =>
    if !c.allowsSurplus && names.length < items.length then none
    else some ⟨false, names.zipIdx.map fun n => (n.1, items[n.2]?)⟩
  | _ => none

namespace Fields

variable {α : Type}

def value? (f : Fields) (name : String) : Option Node :=
  (f.found.lookup name).join

def required (f : Fields) (name : String) (read : Node → Option α) : Option α :=
  (f.value? name).bind read

/-- A field that takes `fallback` when it is missing. -/
def defaulted (f : Fields) (name : String) (fallback : α) (read : Node → Option α) : Option α :=
  match f.value? name with
  | some node => read node
  | none => some fallback

/-- A field that may be missing from a record or say null. -/
def optional (f : Fields) (name : String) (read : Node → Option α) : Option (Option α) :=
  match f.value? name with
  | some node => if node.isNull then some none else (read node).map some
  | none => if f.named then some none else none

end Fields

def Node.choice? (c : Convention) (names : List String) : Node → Option String
  | .text (some s) => if s ∈ names then some s else none
  | .record [(some s, payload)] => if s ∈ names ∧ c.isNothing payload then some s else none
  | _ => none

def Node.choose? {α : Type} (c : Convention) (alternatives : List (String × α)) (node : Node) :
    Option α :=
  (node.choice? c (alternatives.map Prod.fst)).bind fun name => alternatives.lookup name

/-- A table: a record whose names are the keys. The last field of a name wins. -/
def Node.tableOf? {α : Type} (read : Node → Option α) : Node → Option (Table α)
  | .record fields =>
    (fields.mapM fun (f : Option String × Node) =>
      f.1.bind fun name => (read f.2).map fun a => (name, a)).map Table.ofList
  | _ => none

/-! ## Writing nodes -/

def Node.ofText (s : String) : Node := .text (some s)

def Node.ofText? : Option String → Node
  | some s => .ofText s
  | none => .null

def Node.ofFields (fields : List (String × Node)) : Node :=
  .record (fields.map fun f => (some f.1, f.2))

end Roster.Document
