/-!
# YAML: a place in a text

A cursor is what is left of a text, with the number of characters read so far and the line and
column that the next one stands in. Line breaks are of five kinds, and those of one character width
read as a line feed.
-/

namespace Roster.Document.Yaml

def isAllowed (c : Char) : Bool :=
  let n := c.toNat
  n = 0x09 || n = 0x0A || n = 0x0D || (0x20 ≤ n && n ≤ 0x7E) || n = 0x85 ||
    (0xA0 ≤ n && n ≤ 0xD7FF) || (0xE000 ≤ n && n ≤ 0xFFFD) || 0x10000 ≤ n

def lineSeparator : Char := Char.ofNat 0x2028

def paragraphSeparator : Char := Char.ofNat 0x2029

def nextLine : Char := Char.ofNat 0x85

def isBreak (c : Char) : Bool :=
  c = '\n' || c = '\r' || c = nextLine || c = lineSeparator || c = paragraphSeparator

def isSpace (c : Char) : Bool := c = ' ' || c = '\t'

/-- Whether what comes next separates: a blank, a line break or the end. -/
def separates : Option Char → Bool
  | none => true
  | some c => isSpace c || isBreak c

def isWord (c : Char) : Bool := c.isAlphanum || c = '_' || c = '-'

/-- A place in a text. -/
structure Cursor where
  rest : List Char
  index : Nat := 0
  line : Nat := 0
  column : Nat := 0

namespace Cursor

def ahead (c : Cursor) (n : Nat) : Option Char := c.rest[n]?

def peek (c : Cursor) : Option Char := c.rest.head?

def at? (c : Cursor) (x : Char) : Bool := c.peek == some x

def skip (c : Cursor) (n : Nat) : Cursor :=
  { c with rest := c.rest.drop n, index := c.index + n, column := c.column + n }

/-- The characters up to the first that fails a test, and the place after them. -/
def span (c : Cursor) (p : Char → Bool) : List Char × Cursor :=
  let taken := c.rest.takeWhile p
  (taken, c.skip taken.length)

def atBreak (c : Cursor) : Bool := c.peek.any isBreak

def atLineEnd (c : Cursor) : Bool := c.peek.all isBreak

def nextLineAfter (c : Cursor) (n : Nat) : Cursor :=
  { rest := c.rest.drop n, index := c.index + n, line := c.line + 1, column := 0 }

/-- The line break that comes next as it is read, and the place after it. Where none comes, nothing
is read. -/
def readBreak (c : Cursor) : List Char × Cursor :=
  match c.rest with
  | '\r' :: '\n' :: _ => (['\n'], c.nextLineAfter 2)
  | x :: _ =>
    if x = '\n' ∨ x = '\r' ∨ x = nextLine then (['\n'], c.nextLineAfter 1)
    else if x = lineSeparator ∨ x = paragraphSeparator then ([x], c.nextLineAfter 1)
    else ([], c)
  | [] => ([], c)

/-- Whether a line starts here with a marker of a document's start or end. -/
def atMarker (c : Cursor) : Bool :=
  c.column = 0 &&
    match c.rest with
    | '-' :: '-' :: '-' :: rest => separates rest.head?
    | '.' :: '.' :: '.' :: rest => separates rest.head?
    | _ => false

end Cursor

end Roster.Document.Yaml
