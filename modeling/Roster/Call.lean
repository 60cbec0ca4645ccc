/-!
# Calls

What a balancer sees of a call: its method, its headers and the shard key that the caller attached.
-/

namespace Roster

def shardKeyHeader : String := "x-shard-key"

structure Header where
  name : String
  value : List UInt8
  deriving DecidableEq, Repr

namespace Header

def isNameChar (c : Char) : Bool :=
  c.isAlphanum || "!#$%&'*+-.^_\x60|~".toList.contains c

def maxNameLength : Nat := 65535

def isValueByte (b : UInt8) : Bool :=
  (0x20 ≤ b && b != 0x7f) || b == 0x09

/-- A header, if its name and its value are allowed. Names do not depend on the case of letters. -/
def create? (name : String) (value : List UInt8) : Option Header :=
  let cs := name.toList
  if cs.isEmpty || maxNameLength < cs.length || !cs.all isNameChar || !value.all isValueByte then
    none
  else some ⟨String.ofList (cs.map Char.toLower), value⟩

/-- Whether a byte is a visible one of ASCII, a blank or a tab. -/
def isTextByte (b : UInt8) : Bool :=
  (0x20 ≤ b && b ≤ 0x7e) || b == 0x09

/-- The value as a text, if it is a plain one. -/
def text? (h : Header) : Option String :=
  if h.value.all isTextByte then
    some (String.ofList (h.value.map fun b => Char.ofNat b.toNat))
  else none

end Header

/-- A call. -/
structure Call where
  method : String
  headers : List Header := []
  /-- The shard key that the caller attached. -/
  key : Option String := none
  deriving DecidableEq, Repr

namespace Call

/-- The text of the first header of a name, which must be in lower case. -/
def header? (c : Call) (name : String) : Option String :=
  (c.headers.find? (·.name == name)).bind Header.text?

/-- The shard key of a call: the one attached, or else the one in the header for it. -/
def shardKey? (c : Call) : Option String :=
  c.key.or (c.header? shardKeyHeader)

end Call

end Roster
