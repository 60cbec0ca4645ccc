import Roster.Document.Node

/-!
# TOML: blanks, comments, texts and keys

The smallest parts of the notation. Each reader takes its part off the front of a text and leaves
the rest. A text stands between single quotes as it is, or between double quotes with escapes;
three quotes open a text over several lines.
-/

namespace Roster.Document.Toml

def isSpace (c : Char) : Bool := c = ' ' || c = '\t'

def skipSpace (cs : List Char) : List Char := cs.dropWhile isSpace

/-- Whether a character may stand in a comment or a text: a tab or no control character. -/
def isShown (c : Char) : Bool :=
  c = '\t' || (0x20 ≤ c.toNat && c.toNat ≠ 0x7F)

def skipComment : List Char → List Char
  | '#' :: rest => rest.dropWhile isShown
  | rest => rest

def newline? : List Char → Option (List Char)
  | '\n' :: rest => some rest
  | '\r' :: '\n' :: rest => some rest
  | _ => none

/-- What follows the end of a line: spaces, a comment, and a line break or the end of the text. -/
def lineEnd? (cs : List Char) : Option (List Char) :=
  match skipComment (skipSpace cs) with
  | [] => some []
  | rest => newline? rest

/-- A text without the spaces, comments and line breaks in front. -/
def skipLines : Nat → List Char → List Char
  | 0, cs => cs
  | fuel + 1, cs =>
    let rest := skipComment (skipSpace cs)
    match newline? rest with
    | some rest => skipLines fuel rest
    | none => rest

def skipBlank (cs : List Char) : List Char := skipLines cs.length cs

/-! ## Texts -/

def hexValue? (c : Char) : Option Nat :=
  if c.isDigit then some (c.toNat - 48)
  else if 'a' ≤ c ∧ c ≤ 'f' then some (c.toNat - 87)
  else if 'A' ≤ c ∧ c ≤ 'F' then some (c.toNat - 55)
  else none

def hexNumber? (ds : List Char) : Option Nat :=
  ds.foldlM (fun n c => (hexValue? c).map (n * 16 + ·)) 0

def scalar? (n : Nat) : Option Char :=
  if (0xD800 ≤ n ∧ n ≤ 0xDFFF) ∨ 0x10FFFF < n then none else some (Char.ofNat n)

/-- The character that an escape spells after the backslash, and what follows it. -/
def escape? : List Char → Option (Char × List Char)
  | 'b' :: rest => some (Char.ofNat 8, rest)
  | 't' :: rest => some ('\t', rest)
  | 'n' :: rest => some ('\n', rest)
  | 'f' :: rest => some (Char.ofNat 12, rest)
  | 'r' :: rest => some ('\r', rest)
  | 'e' :: rest => some (Char.ofNat 27, rest)
  | '"' :: rest => some ('"', rest)
  | '\\' :: rest => some ('\\', rest)
  | 'x' :: rest => coded 2 rest
  | 'u' :: rest => coded 4 rest
  | 'U' :: rest => coded 8 rest
  | _ => none
where
  coded (width : Nat) (rest : List Char) : Option (Char × List Char) := do
    if rest.length < width then none
    let n ← hexNumber? (rest.take width)
    let c ← scalar? n
    return (c, rest.drop width)

/-- A text on one line after its opening double quote. -/
def basic? : Nat → List Char → Option (List Char × List Char)
  | 0, _ => none
  | fuel + 1, cs =>
    match cs with
    | '"' :: rest => some ([], rest)
    | '\\' :: rest => do
      let (c, rest) ← escape? rest
      let (more, out) ← basic? fuel rest
      return (c :: more, out)
    | c :: rest =>
      if isShown c then do
        let (more, out) ← basic? fuel rest
        return (c :: more, out)
      else none
    | [] => none

def literal? (cs : List Char) : Option (List Char × List Char) :=
  let content := cs.takeWhile fun c => c ≠ '\'' && isShown c
  match cs.drop content.length with
  | '\'' :: rest => some (content, rest)
  | _ => none

/-- What a run of quotes in a text over several lines means: fewer than three belong to the text;
of three or more the last three of at most five close it. -/
def closing? (quote : Char) (cs : List Char) : Option (List Char × List Char) :=
  let run := cs.takeWhile (· = quote)
  if run.length < 3 then none
  else some (List.replicate (min run.length 5 - 3) quote, cs.drop (min run.length 5))

/-- What follows a backslash that ends a line: the next character that is neither a blank nor a
line break. -/
def joined? (cs : List Char) : Option (List Char) :=
  (newline? (skipSpace cs)).map fun rest => skipBreaks rest.length rest
where
  skipBreaks : Nat → List Char → List Char
    | 0, rest => rest
    | fuel + 1, rest =>
      match newline? (skipSpace rest) with
      | some more => skipBreaks fuel more
      | none => skipSpace rest

/-- A text over several lines after its opening quotes. -/
def multiline? (quote : Char) : Nat → List Char → Option (List Char × List Char)
  | 0, _ => none
  | fuel + 1, cs =>
    match closing? quote cs with
    | some (quotes, rest) => some (quotes, rest)
    | none =>
      match newline? cs with
      | some rest => do
        let (more, out) ← multiline? quote fuel rest
        return ('\n' :: more, out)
      | none =>
        match cs with
        | [] => none
        | c :: rest =>
          if c = '\\' ∧ quote = '"' then
            match joined? rest with
            | some rest => multiline? quote fuel rest
            | none => do
              let (x, rest) ← escape? rest
              let (more, out) ← multiline? quote fuel rest
              return (x :: more, out)
          else if isShown c then do
            let (more, out) ← multiline? quote fuel rest
            return (c :: more, out)
          else none

/-- A text over several lines; a line break right after the opening quotes does not count. -/
def afterQuotes? (quote : Char) (cs : List Char) : Option (List Char × List Char) :=
  let body := (newline? cs).getD cs
  multiline? quote (body.length + 1) body

def text? : List Char → Option (List Char × List Char)
  | '"' :: '"' :: '"' :: rest => afterQuotes? '"' rest
  | '\'' :: '\'' :: '\'' :: rest => afterQuotes? '\'' rest
  | '"' :: rest => basic? (rest.length + 1) rest
  | '\'' :: rest => literal? rest
  | _ => none

/-! ## Keys -/

def isBare (c : Char) : Bool :=
  c.isAlphanum || c = '_' || c = '-'

/-- One key: bare, or a text on one line. -/
def simpleKey? : List Char → Option (String × List Char)
  | '"' :: rest => (basic? (rest.length + 1) rest).map fun r => (String.ofList r.1, r.2)
  | '\'' :: rest => (literal? rest).map fun r => (String.ofList r.1, r.2)
  | cs =>
    let name := cs.takeWhile isBare
    if name.isEmpty then none else some (String.ofList name, cs.drop name.length)

def keys? : Nat → List Char → Option (List String × List Char)
  | 0, _ => none
  | fuel + 1, cs => do
    let (key, rest) ← simpleKey? (skipSpace cs)
    match skipSpace rest with
    | '.' :: rest =>
      let (more, out) ← keys? fuel rest
      return (key :: more, out)
    | rest => return ([key], rest)

def key? (cs : List Char) : Option (List String × List Char) :=
  keys? (cs.length + 1) cs

end Roster.Document.Toml
