import Roster.Document.Yaml.Token
import Roster.Table

/-!
# YAML: lists under names

`Yaml.read?` reads a document that lists texts under names. Every scalar is a text, whatever its
notation and its tag. An empty value, like an empty document, lists nothing. An anchor names a
node, and an alias stands for the node of its number: a new anchor takes as its number how many
names there have been, and the last node of a number counts, so an anchor written again may share
its number with the next new one.
-/

namespace Roster.Document.Yaml

/-! ## Documents with aliases -/

/-- A text, or the number of a node that stands elsewhere. -/
inductive Leaf where
  | reference (id : Nat)
  | scalar (anchor : Option Nat) (plain : Bool) (text : String)

/-- What a name in a document stands for. -/
inductive Value where
  | leaf (l : Leaf)
  | list (anchor : Option Nat) (items : List Leaf)

/-- A document: its anchor and its names with their values. -/
structure Listing where
  anchor : Option Nat
  entries : List (Leaf × Value)

namespace Leaf

def anchor? : Leaf → Option Nat
  | reference _ => none
  | scalar a _ _ => a

def isAlias : Leaf → Bool
  | reference _ => true
  | scalar .. => false

end Leaf

/-- The parts of a value that have a number, from the outside in. -/
def Value.anchored : Value → List (Nat × Value)
  | .leaf l => (l.anchor?.map fun n => (n, Value.leaf l)).toList
  | .list a items =>
    (a.map fun n => (n, Value.list a items)).toList ++
      items.filterMap fun l => l.anchor?.map fun n => (n, Value.leaf l)

namespace Listing

/-- The parts of a document that have a number, in the order of writing; `none` for the whole. -/
def anchored (d : Listing) : List (Nat × Option Value) :=
  (d.anchor.map fun n => (n, none)).toList ++
    d.entries.flatMap fun e =>
      ((Value.leaf e.1).anchored ++ e.2.anchored).map fun p => (p.1, some p.2)

def target? (d : Listing) (id : Nat) : Option Value :=
  (d.anchored.reverse.lookup id).join

def text? (d : Listing) : Leaf → Option String
  | .scalar _ _ text => some text
  | .reference id =>
    match d.target? id with
    | some (.leaf (.scalar _ _ text)) => some text
    | _ => none

def itemsOf? : Value → Option (List Leaf)
  | .list _ items => some items
  | .leaf (.scalar _ plain text) => if plain && text.isEmpty then some [] else none
  | .leaf (.reference _) => none

def items? (d : Listing) : Value → Option (List Leaf)
  | .leaf (.reference id) => (d.target? id).bind itemsOf?
  | v => itemsOf? v

/-- How many aliases are followed to read an entry. -/
def detours (d : Listing) (e : Leaf × Value) : Nat :=
  let ofValue := match e.2 with
    | .leaf l => if l.isAlias then 1 else 0
    | .list .. => 0
  (if e.1.isAlias then 1 else 0) + ofValue + ((d.items? e.2).getD []).countP Leaf.isAlias

/-- The number of scalars and aliases and of starts and ends of collections. -/
def size (d : Listing) : Nat :=
  d.entries.foldl (fun n e => n + 1 + match e.2 with
    | .leaf _ => 1
    | .list _ items => items.length + 2) 2

/-- The texts under each name; the last of several equal names counts. Aliases that make a document
many times longer are refused. -/
def table? (d : Listing) : Option (Table (List String)) := do
  let entries ← d.entries.mapM fun e => do
    let name ← d.text? e.1
    let items ← d.items? e.2
    return (name, ← items.mapM d.text?)
  if 100 * d.size < d.entries.foldl (fun total e => total + d.detours e) 0 then none
  else return Table.ofList entries

end Listing

/-! ## Documents from tokens -/

/-- Tokens that have been read in part. -/
structure Reading where
  tokens : List Token
  /-- The numbers of the anchors so far. -/
  ids : Table Nat := Table.empty
  handles : List String := []

structure Properties where
  anchor : Option Nat := none
  present : Bool := false

namespace Reading

def declares (r : Reading) : Option String → Bool
  | none => true
  | some h => h == "!" || h == "!!" || r.handles.contains h

def define (r : Reading) (name : String) : Nat × Reading :=
  (r.ids.size, { r with ids := r.ids.set name r.ids.size })

def properties? (r : Reading) : Option (Properties × Reading) :=
  match r.tokens with
  | .anchor a :: .tag h :: rest =>
    let (n, r) := { r with tokens := rest }.define a
    if r.declares h then some (⟨some n, true⟩, r) else none
  | .tag h :: .anchor a :: rest =>
    let (n, r) := { r with tokens := rest }.define a
    if r.declares h then some (⟨some n, true⟩, r) else none
  | .anchor a :: rest =>
    let (n, r) := { r with tokens := rest }.define a
    some (⟨some n, true⟩, r)
  | .tag h :: rest => if r.declares h then some (⟨none, true⟩, { r with tokens := rest }) else none
  | _ => some ({}, r)

def nextIn (r : Reading) (ts : List Token) : Bool :=
  r.tokens.head?.any ts.contains

/-- The scalar that is read where nothing is written. -/
def emptyLeaf : Leaf := .scalar none true ""

def content? (r : Reading) (p : Properties) : Option (Leaf × Reading) :=
  match r.tokens with
  | .scalar plain text :: rest => some (.scalar p.anchor plain text, { r with tokens := rest })
  | _ => if p.present then some (.scalar p.anchor true "", r) else none

def leaf? (r : Reading) : Option (Leaf × Reading) :=
  match r.tokens with
  | .reference name :: rest =>
    (r.ids.get? name).map fun n => (.reference n, { r with tokens := rest })
  | _ => r.properties?.bind fun q => q.2.content? q.1

/-- Reads a leaf, or the empty one if what comes next is one of some tokens. -/
def leafUnless? (r : Reading) (ts : List Token) : Option (Leaf × Reading) :=
  if r.nextIn ts then some (emptyLeaf, r) else r.leaf?

def blockItems? : Nat → List Leaf → Reading → Option (List Leaf × Reading)
  | 0, _, _ => none
  | fuel + 1, items, r =>
    match r.tokens with
    | .blockEntry :: rest => do
      let (l, r) ← { r with tokens := rest }.leafUnless? [.blockEntry, .blockEnd]
      blockItems? fuel (items ++ [l]) r
    | .blockEnd :: rest => some (items, { r with tokens := rest })
    | _ => none

/-- Reads the items of a block list that is indented no further than the mapping around it. -/
def indentlessItems? : Nat → List Leaf → Reading → Option (List Leaf × Reading)
  | 0, _, _ => none
  | fuel + 1, items, r =>
    match r.tokens with
    | .blockEntry :: rest => do
      let (l, r) ← { r with tokens := rest }.leafUnless? [.blockEntry, .key, .value, .blockEnd]
      indentlessItems? fuel (items ++ [l]) r
    | _ => some (items, r)

def flowItems? : Nat → List Leaf → Reading → Option (List Leaf × Reading)
  | 0, _, _ => none
  | fuel + 1, items, r =>
    match r.tokens with
    | .flowSequenceEnd :: rest => some (items, { r with tokens := rest })
    | .flowEntry :: .flowSequenceEnd :: rest =>
      if items.isEmpty then none else some (items, { r with tokens := rest })
    | .flowEntry :: rest =>
      if items.isEmpty then none
      else do
        let (l, r) ← { r with tokens := rest }.leaf?
        flowItems? fuel (items ++ [l]) r
    | _ =>
      if items.isEmpty then do
        let (l, r) ← r.leaf?
        flowItems? fuel [l] r
      else none

/-- Reads a value. In a block mapping it may be a block list. -/
def value? (inBlock : Bool) (r : Reading) : Option (Value × Reading) :=
  match r.tokens with
  | .reference _ :: _ => r.leaf?.map fun q => (.leaf q.1, q.2)
  | _ => do
    let (p, r) ← r.properties?
    let fuel := r.tokens.length + 1
    let asList := fun (q : List Leaf × Reading) => (Value.list p.anchor q.1, q.2)
    match inBlock, r.tokens with
    | true, .blockEntry :: _ => (r.indentlessItems? fuel []).map asList
    | true, .blockSequenceStart :: rest =>
      ({ r with tokens := rest }.blockItems? fuel []).map asList
    | _, .flowSequenceStart :: rest => ({ r with tokens := rest }.flowItems? fuel []).map asList
    | _, _ => (r.content? p).map fun q => (.leaf q.1, q.2)

def valueUnless? (inBlock : Bool) (r : Reading) (ts : List Token) : Option (Value × Reading) :=
  if r.nextIn ts then some (.leaf emptyLeaf, r) else r.value? inBlock

/-- The tokens before which a key or a value of a block mapping is empty. -/
def blockStops : List Token := [.key, .value, .blockEnd]

def blockEntries? : Nat → List (Leaf × Value) → Reading → Option (List (Leaf × Value) × Reading)
  | 0, _, _ => none
  | fuel + 1, entries, r =>
    match r.tokens with
    | .blockEnd :: rest => some (entries, { r with tokens := rest })
    | .key :: rest => do
      let (key, r) ← { r with tokens := rest }.leafUnless? blockStops
      let (value, r) ← match r.tokens with
        | .value :: rest => ({ r with tokens := rest } : Reading).valueUnless? true blockStops
        | _ => some (.leaf emptyLeaf, r)
      blockEntries? fuel (entries ++ [(key, value)]) r
    | _ => none

/-- Reads an entry of a mapping between braces. A node that is not marked as a key has an empty
value. -/
def flowPair? (r : Reading) : Option ((Leaf × Value) × Reading) :=
  match r.tokens with
  | .key :: rest => do
    let (key, r) ←
      ({ r with tokens := rest } : Reading).leafUnless? [.value, .flowEntry, .flowMappingEnd]
    let (value, r) ← match r.tokens with
      | .value :: rest =>
        ({ r with tokens := rest } : Reading).valueUnless? false [.flowEntry, .flowMappingEnd]
      | _ => some (.leaf emptyLeaf, r)
    return ((key, value), r)
  | _ => r.leaf?.map fun q => ((q.1, .leaf emptyLeaf), q.2)

def flowEntries? : Nat → List (Leaf × Value) → Reading → Option (List (Leaf × Value) × Reading)
  | 0, _, _ => none
  | fuel + 1, entries, r =>
    match r.tokens with
    | .flowMappingEnd :: rest => some (entries, { r with tokens := rest })
    | .flowEntry :: .flowMappingEnd :: rest =>
      if entries.isEmpty then none else some (entries, { r with tokens := rest })
    | .flowEntry :: rest =>
      if entries.isEmpty then none
      else do
        let (e, r) ← { r with tokens := rest }.flowPair?
        flowEntries? fuel (entries ++ [e]) r
    | _ =>
      if entries.isEmpty then do
        let (e, r) ← r.flowPair?
        flowEntries? fuel [e] r
      else none

def listing? (r : Reading) : Option (Listing × Reading) := do
  let (p, r) ← r.properties?
  let fuel := r.tokens.length + 1
  match r.tokens with
  | .blockMappingStart :: rest =>
    let (entries, r) ← { r with tokens := rest }.blockEntries? fuel []
    return (⟨p.anchor, entries⟩, r)
  | .flowMappingStart :: rest =>
    let (entries, r) ← { r with tokens := rest }.flowEntries? fuel []
    return (⟨p.anchor, entries⟩, r)
  | _ =>
    let (l, r) ← r.content? p
    match l with
    | .scalar a true "" => return (⟨a, []⟩, r)
    | _ => none

/-- Reads directives; neither the version nor a handle may be declared twice. -/
def directives? : Bool → Reading → Option Reading
  | versioned, ⟨.versionDirective :: rest, ids, handles⟩ =>
    if versioned then none else directives? true ⟨rest, ids, handles⟩
  | versioned, ⟨.tagDirective h :: rest, ids, handles⟩ =>
    if handles.contains h then none else directives? versioned ⟨rest, ids, h :: handles⟩
  | _, r => some r
termination_by _ r => r.tokens.length

/-- Reads the start of a document, which must be marked if there are directives, and its content,
which may be missing after a mark. -/
def document? (r : Reading) : Option (Listing × Reading) := do
  let bare := !r.nextIn [.documentStart] && !r.tokens.head?.any isDirective
  if bare then r.listing?
  else do
    let r ← r.directives? false
    match r.tokens with
    | .documentStart :: rest =>
      let r := { r with tokens := rest }
      if r.tokens.isEmpty || r.nextIn [.documentStart, .documentEnd] ||
          r.tokens.head?.any isDirective then
        return (⟨none, []⟩, r)
      else r.listing?
    | _ => none
where
  isDirective : Token → Bool
    | .versionDirective => true
    | .tagDirective _ => true
    | _ => false

end Reading

/-- The texts listed under each name in a document. A text without content lists nothing; after the
document only marks of its end may follow. -/
def read? (s : String) : Option (Table (List String)) := do
  let tokens ← tokens? s
  if tokens.isEmpty then return Table.empty
  let (d, r) ← Reading.document? { tokens }
  if r.tokens.all (· == .documentEnd) then d.table? else none

end Roster.Document.Yaml
