import Roster.Document.Decoder
import Roster.Document.Toml.Item
import Roster.Document.Toml.Scalar

/-!
# TOML

`Toml.read?` reads a document: lines with a key and its value, and headers that open tables. Lists
and inline tables may go over several lines, end with a comma and nest at most `maxDepth` deep.
-/

namespace Roster.Document.Toml

def maxDepth : Nat := 80

mutual

/-- A value and what follows it, where `depth` more levels may be opened. Every step into a value
spends a unit of `fuel`. -/
def value? : Nat → Nat → List Char → Option (Node × List Char)
  | 0, _, _ => none
  | fuel + 1, depth, cs =>
    match cs with
    | '[' :: rest =>
      match depth with
      | 0 => none
      | depth + 1 => do
        let (items, rest) ← items? fuel depth (skipBlank rest)
        return (.list items, rest)
    | '\x7b' :: rest =>
      match depth with
      | 0 => none
      | depth + 1 => do
        let (body, rest) ← fields? fuel depth [] (skipBlank rest)
        return (body.toNode, rest)
    | _ =>
      if cs.head? = some '"' ∨ cs.head? = some '\'' then do
        let (s, rest) ← text? cs
        return (.text (some (String.ofList s)), rest)
      else
        let (a, rest) := atom cs
        (scalar a).map fun n => (n, rest)

def items? : Nat → Nat → List Char → Option (List Node × List Char)
  | 0, _, _ => none
  | fuel + 1, depth, cs =>
    match cs with
    | ']' :: rest => some ([], rest)
    | _ => do
      let (item, rest) ← value? fuel depth cs
      match skipBlank rest with
      | ',' :: rest =>
        let (items, rest) ← items? fuel depth (skipBlank rest)
        return (item :: items, rest)
      | ']' :: rest => return ([item], rest)
      | _ => none

def fields? : Nat → Nat → Body → List Char → Option (Body × List Char)
  | 0, _, _, _ => none
  | fuel + 1, depth, body, cs =>
    match cs with
    | '\x7d' :: rest => some (body, rest)
    | _ => do
      let (path, rest) ← key? cs
      let '=' :: rest := rest | none
      let (n, rest) ← value? fuel depth (skipSpace rest)
      let key ← path.getLast?
      let body ← body.write path.dropLast key n
      match skipBlank rest with
      | ',' :: rest => fields? fuel depth body (skipBlank rest)
      | '\x7d' :: rest => return (body, rest)
      | _ => none

end

/-- A document under construction: all its fields, and the path of the table that the next line
writes to. -/
structure Draft where
  body : Body
  path : List String

/-- What a line adds to a document, and what follows the line. -/
def Draft.line? (d : Draft) (cs : List Char) : Option (Draft × List Char) :=
  match skipSpace cs with
  | '[' :: '[' :: rest => do
    let (path, rest) ← key? rest
    let ']' :: ']' :: rest := rest | none
    let rest ← lineEnd? rest
    let key ← path.getLast?
    let body ← d.body.alter path.dropLast (Body.openNext key)
    return (⟨body, path⟩, rest)
  | '[' :: rest => do
    let (path, rest) ← key? rest
    let ']' :: rest := rest | none
    let rest ← lineEnd? rest
    let key ← path.getLast?
    let body ← d.body.alter path.dropLast (Body.openTable key)
    return (⟨body, path⟩, rest)
  | rest =>
    match lineEnd? rest with
    | some rest => some (d, rest)
    | none => do
      let (path, rest) ← key? rest
      let '=' :: rest := rest | none
      let rest := skipSpace rest
      let (n, rest) ← value? (2 * rest.length + 2) maxDepth rest
      let rest ← lineEnd? rest
      let key ← path.getLast?
      let body ← d.body.alter d.path fun b => b.write path.dropLast key n
      return (⟨body, d.path⟩, rest)

def Draft.lines? : Nat → Draft → List Char → Option Draft
  | 0, _, _ => none
  | fuel + 1, d, cs =>
    if cs.isEmpty then some d
    else (d.line? cs).bind fun r => r.1.lines? fuel r.2

/-- The document that a text holds. A byte order mark in front does not count. -/
def read? (s : String) : Option Node :=
  let cs := match s.toList with
    | c :: rest => if c.toNat = 0xFEFF then rest else c :: rest
    | [] => []
  (Draft.lines? (cs.length + 1) ⟨[], []⟩ cs).map fun d => d.body.toNode

/-- How structures are written in TOML: an empty list or table stands for nothing in it, and a list
of field values may go on after the last field. -/
def convention : Convention where
  isNothing
    | .list items => items.isEmpty
    | .record fields => fields.isEmpty
    | _ => false
  allowsSurplus := true

end Roster.Document.Toml
