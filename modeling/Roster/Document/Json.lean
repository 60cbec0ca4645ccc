import Roster.Document.Decoder

/-!
# JSON

`Json.read?` reads a text that holds one JSON value and blanks around it. Numbers are whole if they
have neither fraction nor exponent; a minus sign before zero makes a number a decimal one. The
names of a record are kept as often as they are written, and what they mean is left to the reader
of the node.
-/

namespace Roster.Document.Json

/-- The four blanks of the notation. -/
def isSpace (c : Char) : Bool :=
  c = ' ' || c = '\n' || c = '\t' || c = '\r'

def skipSpace (cs : List Char) : List Char :=
  cs.dropWhile isSpace

def hexValue? (c : Char) : Option Nat :=
  if c.isDigit then some (c.toNat - 48)
  else if 'a' ≤ c ∧ c ≤ 'f' then some (c.toNat - 87)
  else if 'A' ≤ c ∧ c ≤ 'F' then some (c.toNat - 55)
  else none

def hexFour? (a b c d : Char) : Option Nat := do
  let w ← hexValue? a
  let x ← hexValue? b
  let y ← hexValue? c
  let z ← hexValue? d
  return ((w * 16 + x) * 16 + y) * 16 + z

def escape? (c : Char) : Option Char :=
  match c with
  | '"' => some '"'
  | '\\' => some '\\'
  | '/' => some '/'
  | 'b' => some (Char.ofNat 8)
  | 'f' => some (Char.ofNat 12)
  | 'n' => some '\n'
  | 'r' => some '\r'
  | 't' => some '\t'
  | _ => none

/-- Whether a unit is the first half of a surrogate pair. -/
def isHighHalf (n : Nat) : Bool := 0xD800 ≤ n && n ≤ 0xDBFF

def isLowHalf (n : Nat) : Bool := 0xDC00 ≤ n && n ≤ 0xDFFF

/-- A piece of a text: a character, or half of a surrogate pair that an escape spells. -/
inductive Piece where
  | char (c : Char)
  | half (n : Nat)

/-- The pieces of a text up to its closing quote, and what follows the quote. -/
def pieces? : List Char → Option (List Piece × List Char)
  | [] => none
  | '"' :: rest => some ([], rest)
  | '\\' :: 'u' :: a :: b :: c :: d :: rest => do
    let n ← hexFour? a b c d
    let (ps, out) ← pieces? rest
    return ((if isHighHalf n || isLowHalf n then .half n else .char (Char.ofNat n)) :: ps, out)
  | '\\' :: c :: rest => do
    let x ← escape? c
    let (ps, out) ← pieces? rest
    return (.char x :: ps, out)
  | c :: rest =>
    if c.toNat < 0x20 then none
    else do
      let (ps, out) ← pieces? rest
      return (.char c :: ps, out)

/-- The characters that pieces spell: a first half and a second half side by side make one, and a
half on its own makes none. -/
def join? : List Piece → Option (List Char)
  | [] => some []
  | .char c :: rest => (join? rest).map (c :: ·)
  | .half n :: .half m :: rest =>
    if isHighHalf n && isLowHalf m then
      (join? rest).map (Char.ofNat (0x10000 + (n - 0xD800) * 0x400 + (m - 0xDC00)) :: ·)
    else none
  | .half _ :: _ => none

def text? (cs : List Char) : Option (Option String × List Char) := do
  let (ps, rest) ← pieces? cs
  return ((join? ps).map String.ofList, rest)

def digits? (cs : List Char) : Option (List Char × List Char) :=
  let ds := cs.takeWhile Char.isDigit
  if ds.isEmpty then none else some (ds, cs.dropWhile Char.isDigit)

/-- The whole part of a number: zero alone, or digits that do not start with zero. -/
def whole? (cs : List Char) : Option (List Char × List Char) := do
  let (ds, rest) ← digits? cs
  if ds.head? = some '0' ∧ ds.length ≠ 1 then none else return (ds, rest)

/-- What follows a fraction, and whether there was one. -/
def fraction? : List Char → Option (Bool × List Char)
  | '.' :: cs => do
    let (_, rest) ← digits? cs
    return (true, rest)
  | cs => some (false, cs)

def exponent? : List Char → Option (Bool × List Char)
  | c :: cs =>
    if c = 'e' ∨ c = 'E' then
      let unsigned := match cs with
        | '+' :: more => more
        | '-' :: more => more
        | more => more
      do
        let (_, rest) ← digits? unsigned
        return (true, rest)
    else some (false, c :: cs)
  | [] => some (false, [])

def ofDigits (ds : List Char) : Nat :=
  ds.foldl (fun n c => n * 10 + (c.toNat - 48)) 0

def number? (negative : Bool) (cs : List Char) : Option (Node × List Char) := do
  let (ds, rest) ← whole? cs
  let (hasFraction, rest) ← fraction? rest
  let (hasExponent, rest) ← exponent? rest
  let n := ofDigits ds
  if hasFraction || hasExponent || (negative && n == 0) then return (.decimal, rest)
  else return (.integer (if negative then -n else n), rest)

mutual

/-- A value and what follows it. Every step into a value spends a unit of `fuel`. -/
def value? : Nat → List Char → Option (Node × List Char)
  | 0, _ => none
  | fuel + 1, cs =>
    match skipSpace cs with
    | 'n' :: 'u' :: 'l' :: 'l' :: rest => some (.null, rest)
    | 't' :: 'r' :: 'u' :: 'e' :: rest => some (.bool true, rest)
    | 'f' :: 'a' :: 'l' :: 's' :: 'e' :: rest => some (.bool false, rest)
    | '"' :: rest => do
      let (s, rest) ← text? rest
      return (.text s, rest)
    | '[' :: rest =>
      match skipSpace rest with
      | ']' :: rest => some (.list [], rest)
      | rest => do
        let (items, rest) ← items? fuel rest
        return (.list items, rest)
    | '\x7b' :: rest =>
      match skipSpace rest with
      | '\x7d' :: rest => some (.record [], rest)
      | rest => do
        let (fields, rest) ← fields? fuel rest
        return (.record fields, rest)
    | '-' :: rest => number? true rest
    | rest => number? false rest

def items? : Nat → List Char → Option (List Node × List Char)
  | 0, _ => none
  | fuel + 1, cs => do
    let (item, rest) ← value? fuel cs
    match skipSpace rest with
    | ',' :: rest =>
      let (items, rest) ← items? fuel rest
      return (item :: items, rest)
    | ']' :: rest => return ([item], rest)
    | _ => none

def fields? : Nat → List Char → Option (List (Option String × Node) × List Char)
  | 0, _ => none
  | fuel + 1, cs =>
    match skipSpace cs with
    | '"' :: rest => do
      let (name, rest) ← text? rest
      match skipSpace rest with
      | ':' :: rest =>
        let (node, rest) ← value? fuel rest
        match skipSpace rest with
        | ',' :: rest =>
          let (fields, rest) ← fields? fuel rest
          return ((name, node) :: fields, rest)
        | '\x7d' :: rest => return ([(name, node)], rest)
        | _ => none
      | _ => none
    | _ => none

end

def read? (s : String) : Option Node := do
  let cs := s.toList
  let (node, rest) ← value? (2 * cs.length + 1) cs
  if (skipSpace rest).isEmpty then some node else none

/-- How structures are written in JSON: null stands for nothing in it, and a list of field values
ends with the last field. -/
def convention : Convention where
  isNothing := Node.isNull
  allowsSurplus := false

end Roster.Document.Json
