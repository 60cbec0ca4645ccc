/-!
# Addresses of web requests

The part of a web address that a request carries: the path and the query. Tabs and line breaks do
not count, nor do blanks and control characters at either end. A fragment starts at the first
number sign and is left out, a query at the first question mark before that. Dot segments of the
path are resolved, and characters that may not stand there are escaped; what is escaped already
stays.
-/

namespace Roster.Consul

/-! ## Escapes -/

def hexDigit (n : Nat) : Char :=
  if n < 10 then Char.ofNat (48 + n) else Char.ofNat (55 + n)

def escapeByte (b : UInt8) : List Char :=
  ['%', hexDigit (b.toNat / 16), hexDigit (b.toNat % 16)]

def charBytes (c : Char) : List UInt8 :=
  (String.singleton c).toUTF8.toList

def escapeChar (c : Char) : List Char :=
  (charBytes c).flatMap escapeByte

/-- Characters of which those that fail a test are escaped. -/
def escapeUnless (safe : Char → Bool) (cs : List Char) : List Char :=
  cs.flatMap fun c => if safe c then [c] else escapeChar c

def isVisible (c : Char) : Bool := '!' ≤ c && c ≤ '~'

def isPathChar (c : Char) : Bool :=
  isVisible c && !"\"#<>?^\x60\x7b\x7d".toList.contains c

def isQueryChar (c : Char) : Bool :=
  isVisible c && !"\"#<>'".toList.contains c

/-- Whether a character stands for itself in a form. -/
def isFormChar (c : Char) : Bool :=
  c.isAlphanum || "*-._".toList.contains c

/-- The text of a form's name or value. A blank is written as a plus sign. -/
def formText (s : String) : List Char :=
  s.toList.flatMap fun c =>
    if isFormChar c then [c] else if c = ' ' then ['+'] else escapeChar c

def formPairs (pairs : List (String × String)) : List Char :=
  List.intercalate ['&'] (pairs.map fun p => formText p.1 ++ '=' :: formText p.2)

/-! ## Paths -/

/-- The segments of a path, between slashes of either direction. -/
def segments : List Char → List (List Char)
  | [] => [[]]
  | c :: rest =>
    if c = '/' ∨ c = '\\' then [] :: segments rest
    else match segments rest with
      | [] => [[c]]
      | s :: more => (c :: s) :: more

/-- A segment in which escaped dots are written plainly. -/
def plainDots : List Char → List Char
  | '%' :: '2' :: 'e' :: rest => '.' :: plainDots rest
  | '%' :: '2' :: 'E' :: rest => '.' :: plainDots rest
  | c :: rest => c :: plainDots rest
  | [] => []

/-- Resolves the dot segments of a path after the segments `done`, the last one first: one dot
stays where it is, two dots go back. -/
def resolveDots (done : List (List Char)) : List (List Char) → List (List Char)
  | [] => done.reverse
  | [s] =>
    if plainDots s = ['.', '.'] then ([] :: done.tail).reverse
    else if plainDots s = ['.'] then ([] :: done).reverse
    else (s :: done).reverse
  | s :: rest =>
    if plainDots s = ['.', '.'] then resolveDots done.tail rest
    else if plainDots s = ['.'] then resolveDots done rest
    else resolveDots (s :: done) rest

/-- A path as a request carries it. -/
def requestPath (cs : List Char) : List Char :=
  let cs := match cs with
    | c :: rest => if c = '/' ∨ c = '\\' then rest else cs
    | [] => []
  (resolveDots [] (segments cs)).flatMap fun s => '/' :: escapeUnless isPathChar s

/-! ## Addresses -/

def isMargin (c : Char) : Bool := c.toNat ≤ 0x20

/-- An address without the characters that do not count. -/
def cleaned (address : List Char) : List Char :=
  let trimmed := ((address.dropWhile isMargin).reverse.dropWhile isMargin).reverse
  trimmed.filter fun c => !(c = '\t' || c = '\n' || c = '\r')

def afterScheme : List Char → List Char
  | ':' :: '/' :: '/' :: rest => rest
  | _ :: rest => afterScheme rest
  | [] => []

/-- The path and the query that a request to an address carries, with further query pairs. -/
def requestTarget (address : List Char) (pairs : List (String × String)) : List Char :=
  let rest := (cleaned address).takeWhile (· != '#')
  let path := (afterScheme rest).takeWhile (· != '?')
  let path := path.dropWhile fun c => c != '/' && c != '\\'
  let query := (rest.dropWhile (· != '?')).drop 1
  let query := escapeUnless isQueryChar query
  let query := if query.isEmpty then formPairs pairs else query ++ '&' :: formPairs pairs
  requestPath path ++ '?' :: query

end Roster.Consul
