import Roster.Document.Node

/-!
# TOML: tables under construction

A document is built by writing values under keys with dots and by opening tables under headers. A
table remembers how it came to be, because that decides who may write to it later: a header may
open a table that only stands on the way to another one, and keys with dots may extend only tables
that keys with dots made. The tables of an array are opened one after another, and a header goes
through the last of them.
-/

namespace Roster.Document.Toml

/-- How a table came to be. -/
inductive Origin where
  | header
  /-- It stands on the way to a table that a header opened. -/
  | onTheWay
  | dotted
  deriving DecidableEq

inductive Item where
  | value (n : Node)
  | table (origin : Origin) (fields : List (String × Item))
  /-- The tables of an array, the last one first. -/
  | tables (last : List (String × Item)) (before : List (List (String × Item)))

abbrev Body := List (String × Item)

def Body.get? (body : Body) (key : String) : Option Item :=
  (body.find? (·.1 == key)).map Prod.snd

def Body.set (body : Body) (key : String) (item : Item) : Body :=
  match body with
  | [] => [(key, item)]
  | e :: rest => if e.1 = key then (key, item) :: rest else e :: Body.set rest key item

/-- Changes the table at the end of a header's path, making the tables on the way. -/
def Body.alter (path : List String) (f : Body → Option Body) (body : Body) : Option Body :=
  match path with
  | [] => f body
  | key :: path =>
    match Body.get? body key with
    | none => (Body.alter path f []).map fun b => Body.set body key (.table .onTheWay b)
    | some (.value _) => none
    | some (.table origin fields) =>
      (Body.alter path f fields).map fun b => Body.set body key (.table origin b)
    | some (.tables last before) =>
      (Body.alter path f last).map fun b => Body.set body key (.tables b before)

/-- Writes a value under a key with dots. The tables that the dots go through are made by keys with
dots alone, the last of them at least, and the last key is new. -/
def Body.write (body : Body) (path : List String) (key : String) (n : Node) : Option Body :=
  match path with
  | [] => if (Body.get? body key).isSome then none else some (Body.set body key (.value n))
  | first :: path =>
    match Body.get? body first with
    | none => (Body.write [] path key n).map fun b => Body.set body first (.table .dotted b)
    | some (.value _) => none
    | some (.table origin fields) =>
      if origin = .header ∨ (origin = .onTheWay ∧ path = []) then none
      else (Body.write fields path key n).map fun b => Body.set body first (.table origin b)
    | some (.tables last before) =>
      if path = [] then none
      else (Body.write last path key n).map fun b => Body.set body first (.tables b before)

/-- Opens the table of a header. It is new, or has only stood on the way so far. -/
def Body.openTable (key : String) (body : Body) : Option Body :=
  match Body.get? body key with
  | none => some (Body.set body key (.table .header []))
  | some (.table .onTheWay fields) => some (Body.set body key (.table .header fields))
  | some _ => none

/-- Opens the next table of an array of tables. -/
def Body.openNext (key : String) (body : Body) : Option Body :=
  match Body.get? body key with
  | none => some (Body.set body key (.tables [] []))
  | some (.tables last before) => some (Body.set body key (.tables [] (last :: before)))
  | some _ => none

mutual

def Item.toNode : Item → Node
  | .value n => n
  | .table _ fields => .record (bodyFields fields)
  | .tables last before => .list (bodyRecords before [.record (bodyFields last)])

def bodyFields : List (String × Item) → List (Option String × Node)
  | [] => []
  | (key, item) :: rest => (some key, item.toNode) :: bodyFields rest

/-- The records of earlier tables in front of those of later ones. -/
def bodyRecords : List (List (String × Item)) → List Node → List Node
  | [], later => later
  | fields :: rest, later => bodyRecords rest (.record (bodyFields fields) :: later)

end

def Body.toNode (body : Body) : Node := .record (bodyFields body)

end Roster.Document.Toml
