import Roster.Document.Toml.Lexeme

/-!
# TOML: numbers, truth values and moments

A scalar without quotes is a run of letters, digits and a few signs, read as a whole. A date may go
on with a time after one space.
-/

namespace Roster.Document.Toml

def isAtomic (c : Char) : Bool :=
  c.isAlphanum || c = '_' || c = '+' || c = '-' || c = '.' || c = ':'

/-! ## Numbers -/

/-- The digits of a number without its underscores, each of which stands between two digits. -/
def ungrouped? (isDigit : Char → Bool) : List Char → Option (List Char)
  | [] => none
  | [c] => if isDigit c then some [c] else none
  | c :: '_' :: d :: rest =>
    if isDigit c then (ungrouped? isDigit (d :: rest)).map (c :: ·) else none
  | c :: rest => if isDigit c then (ungrouped? isDigit rest).map (c :: ·) else none

def inBase (base : Nat) (ds : List Char) : Nat :=
  ds.foldl (fun n c => n * base + (hexValue? c).getD 0) 0

/-- A whole number in a base that a letter after zero names. -/
def prefixed? (base : Nat) (cs : List Char) : Option Nat :=
  (ungrouped? (fun c => ((hexValue? c).getD 16) < base) cs).map (inBase base)

/-- The digits of a decimal whole number: zero alone, or no zero in front. -/
def decimalDigits? (cs : List Char) : Option (List Char) := do
  let ds ← ungrouped? Char.isDigit cs
  if ds.head? = some '0' ∧ ds.length ≠ 1 then none else return ds

/-- A text without its sign, and whether the sign is a minus. -/
def unsigned : List Char → Bool × List Char
  | '-' :: rest => (true, rest)
  | '+' :: rest => (false, rest)
  | rest => (false, rest)

/-- Numbers of 128 bits, beyond which whole numbers are refused. -/
def maxWord128 : Nat := 0xffffffffffffffffffffffffffffffff

def integer? (atom : List Char) : Option Int := do
  let n : Int ← match atom with
    | '0' :: 'x' :: rest => (prefixed? 16 rest).map Int.ofNat
    | '0' :: 'o' :: rest => (prefixed? 8 rest).map Int.ofNat
    | '0' :: 'b' :: rest => (prefixed? 2 rest).map Int.ofNat
    | _ => do
      let (negative, digits) := unsigned atom
      let n := inBase 10 (← decimalDigits? digits)
      return if negative then -(n : Int) else n
  if -(0x80000000000000000000000000000000 : Int) ≤ n ∧ n ≤ maxWord128 then return n else none

/-- Whether `m · 10 ^ e` rounds to a finite number of double precision. -/
def isFiniteDouble (m : Nat) (e : Int) : Bool :=
  let bound := Nat.pow 2 1024 - Nat.pow 2 970
  if m = 0 then true
  else if 400 < e then false
  else if 0 ≤ e then m * Nat.pow 10 e.toNat < bound
  else if (Nat.toDigits 10 m).length + e < 0 then true
  else m < bound * Nat.pow 10 (-e).toNat

/-- Whether a text is a number with a fraction, an exponent or both, within the range of double
precision, or one of the names of infinity and of no number. -/
def isDecimal (atom : List Char) : Bool :=
  let (_, body) := unsigned atom
  if body = ['i', 'n', 'f'] ∨ body = ['n', 'a', 'n'] then true
  else
    let whole := body.takeWhile fun (c : Char) => c.isDigit || c = '_'
    let rest := body.drop whole.length
    let (fraction, rest) := match rest with
      | '.' :: more =>
        let ds := more.takeWhile fun (c : Char) => c.isDigit || c = '_'
        (ungrouped? Char.isDigit ds, more.drop ds.length)
      | more => (some [], more)
    let exponent : Option Int := match rest with
      | [] => some 0
      | c :: more =>
        if c = 'e' ∨ c = 'E' then
          let (negative, ds) := unsigned more
          (ungrouped? Char.isDigit ds).map fun ds =>
            if negative then -(inBase 10 ds : Int) else inBase 10 ds
        else none
    match decimalDigits? whole, fraction, exponent with
    | some w, some f, some e =>
      (!f.isEmpty || !rest.isEmpty) && isFiniteDouble (inBase 10 (w ++ f)) (e - f.length)
    | _, _, _ => false

/-! ## Dates and times -/

/-- The number that exactly `width` digits spell, and what follows. -/
def fixed? (width : Nat) (cs : List Char) : Option (Nat × List Char) :=
  let ds := cs.take width
  if ds.length = width ∧ ds.all Char.isDigit then some (inBase 10 ds, cs.drop width) else none

def daysIn (year month : Nat) : Nat :=
  if month = 2 then
    if year % 4 = 0 ∧ (year % 100 ≠ 0 ∨ year % 400 = 0) then 29 else 28
  else if month ∈ [4, 6, 9, 11] then 30
  else 31

def date? (cs : List Char) : Option (List Char) := do
  let (year, rest) ← fixed? 4 cs
  let '-' :: rest := rest | none
  let (month, rest) ← fixed? 2 rest
  let '-' :: rest := rest | none
  let (day, rest) ← fixed? 2 rest
  if 1 ≤ month ∧ month ≤ 12 ∧ 1 ≤ day ∧ day ≤ daysIn year month then return rest else none

/-- What follows a time of day. Seconds and their fraction may be missing. -/
def time? (cs : List Char) : Option (List Char) := do
  let (hour, rest) ← fixed? 2 cs
  let ':' :: rest := rest | none
  let (minute, rest) ← fixed? 2 rest
  if 23 < hour ∨ 59 < minute then none
  match rest with
  | ':' :: rest =>
    let (second, rest) ← fixed? 2 rest
    if 60 < second then none
    match rest with
    | '.' :: rest =>
      let ds := rest.takeWhile Char.isDigit
      if ds.isEmpty then none else return rest.drop ds.length
    | rest => return rest
  | rest => return rest

def isOffset : List Char → Bool
  | ['Z'] => true
  | ['z'] => true
  | sign :: rest =>
    (sign = '+' || sign = '-') &&
      match fixed? 2 rest with
      | some (hour, ':' :: rest) =>
        match fixed? 2 rest with
        | some (minute, []) => hour ≤ 23 && minute ≤ 59
        | _ => false
      | _ => false
  | [] => false

/-- Whether a text is a date, a time, or both with or without an offset. -/
def isMoment (atom : List Char) : Bool :=
  match date? atom with
  | some [] => true
  | some (c :: rest) =>
    (c = 'T' || c = 't' || c = ' ') &&
      match time? rest with
      | some [] => true
      | some rest => isOffset rest
      | none => false
  | none => time? atom == some []

/-! ## Scalars -/

/-- The run of characters that makes a scalar without quotes, and what follows. A date and a time
may stand one space apart. -/
def atom (cs : List Char) : List Char × List Char :=
  let first := cs.takeWhile isAtomic
  let rest := cs.drop first.length
  match rest with
  | ' ' :: d :: more =>
    if date? first = some [] ∧ d.isDigit then
      let second := (d :: more).takeWhile isAtomic
      (first ++ ' ' :: second, (d :: more).drop second.length)
    else (first, rest)
  | _ => (first, rest)

def scalar (a : List Char) : Option Node :=
  if a = ['t', 'r', 'u', 'e'] then some (.bool true)
  else if a = ['f', 'a', 'l', 's', 'e'] then some (.bool false)
  else match integer? a with
    | some n => some (.integer n)
    | none => if isDecimal a then some .decimal else if isMoment a then some .moment else none

end Roster.Document.Toml
