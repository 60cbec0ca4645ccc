import Roster.Table

/-!
# Catalogs

A catalog knows the healthy instances of services under names of its own. A query about a name
takes time and ends with entries or with an error. What a catalog answers is given in advance,
query by query; after that it repeats at once what it last returned.
-/

namespace Roster

structure CatalogEntry where
  node : String
  /-- The port, at most 65535. -/
  port : Nat
  deriving DecidableEq, Repr

def portDigits (port : Nat) : List Char := Nat.toDigits 10 port

theorem isDigit_of_mem_portDigits {port : Nat} {c : Char} (h : c ∈ portDigits port) :
    c.isDigit = true :=
  Nat.isDigit_of_mem_toDigits (by decide) (by decide) h

/-- The address of an entry: the host, a colon, the port. -/
def CatalogEntry.address (e : CatalogEntry) : String :=
  String.ofList (e.node.toList ++ ':' :: portDigits e.port)

structure CatalogAnswer where
  delay : Nat := 0
  result : Except String (List CatalogEntry)

/-- A catalog. -/
structure Catalog where
  /-- The answer to each query about a name, counted from zero, as far as it is given. -/
  script : String → Nat → Option CatalogAnswer
  asked : Table Nat := Table.empty
  /-- The entries that were last returned for each name. -/
  last : Table (List CatalogEntry) := Table.empty

namespace Catalog

/-- The catalog that answers from lists, one answer per query. -/
def ofLists (answers : Table (List CatalogAnswer)) : Catalog where
  script name n := ((answers.get? name).getD [])[n]?

def unreachable (reason : String) : Catalog where
  script _ _ := some { result := .error reason }

/-- How many queries were made about a name. -/
def askedAbout (c : Catalog) (name : String) : Nat := (c.asked.get? name).getD 0

def ask (c : Catalog) (name : String) : CatalogAnswer × Catalog :=
  let n := c.askedAbout name
  let answer := (c.script name n).getD { result := .ok ((c.last.get? name).getD []) }
  (answer, { c with asked := c.asked.set name (n + 1) })

/-- Notes what a query about a name returned. -/
def note (c : Catalog) (name : String) (result : Except String (List CatalogEntry)) : Catalog :=
  match result with
  | .ok entries => { c with last := c.last.set name entries }
  | .error _ => c

end Catalog

end Roster
