import Roster.Document.Yaml.Scalar

/-!
# YAML: tokens

`tokens?` cuts a text into tokens. Indentation becomes tokens too: a block collection opens where a
line is indented further and closes where one is indented less. That a scalar is the key of a
mapping shows only at the colon after it, so the lexer remembers where the last possible key of
each open collection started, and puts the tokens for a key, and for the mapping that it opens,
there.
-/

namespace Roster.Document.Yaml

inductive Token where
  | versionDirective
  | tagDirective (handle : String)
  | documentStart
  | documentEnd
  | blockSequenceStart
  | blockMappingStart
  | blockEnd
  | flowSequenceStart
  | flowSequenceEnd
  | flowMappingStart
  | flowMappingEnd
  | blockEntry
  | flowEntry
  | key
  | value
  | reference (name : String)
  | anchor (name : String)
  /-- A tag with its handle, or `none` for a tag written in full. -/
  | tag (handle : Option String)
  | scalar (plain : Bool) (text : String)
  deriving DecidableEq, Repr

/-! ## Names, tags and directives -/

def anchorName? (c : Cursor) : Option (String × Cursor) :=
  let (name, c) := c.span isWord
  let ends := match c.peek with
    | some x => separates (some x) || "?:,]\x7d%@\x60".toList.contains x
    | none => true
  if name.isEmpty || !ends then none else some (String.ofList name, c)

/-- How many bytes a character takes whose first byte is `n`. -/
def byteWidth? (n : Nat) : Option Nat :=
  if n < 0x80 then some 1
  else if n < 0xC0 then none
  else if n < 0xE0 then some 2
  else if n < 0xF0 then some 3
  else if n < 0xF8 then some 4
  else none

def escapedByte? : List Char → Option (Nat × List Char)
  | '%' :: a :: b :: rest => do
    let x ← hexValue? a
    let y ← hexValue? b
    return (x * 16 + y, rest)
  | _ => none

def continuation? : Nat → List Char → Option (List Char)
  | 0, cs => some cs
  | n + 1, cs => do
    let (b, rest) ← escapedByte? cs
    if 0x80 ≤ b ∧ b < 0xC0 then continuation? n rest else none

/-- Whether a character may stand in the address of a tag. In a tag written in full, commas and
brackets may stand there too. -/
def isTagChar (full : Bool) (c : Char) : Bool :=
  isWord c || ";/?:@&=+$.!~*'()".toList.contains c || (full && (c = ',' || c = '[' || c = ']'))

/-- The number of characters of a tag's address. -/
def tagWidth? (full : Bool) : Nat → List Char → Option Nat
  | 0, _ => none
  | fuel + 1, cs =>
    match cs with
    | [] => some 0
    | c :: rest =>
      if c = '%' then do
        let (b, after) ← escapedByte? cs
        let width ← byteWidth? b
        let after ← continuation? (width - 1) after
        let n ← tagWidth? full fuel after
        return 3 * width + n
      else if isTagChar full c then (tagWidth? full fuel rest).map (· + 1)
      else some 0

/-- Skips the address of a tag, which may be empty only if `mayBeEmpty`. -/
def tagAddress? (full mayBeEmpty : Bool) (c : Cursor) : Option Cursor := do
  let n ← tagWidth? full (c.rest.length + 1) c.rest
  if n = 0 && !mayBeEmpty then none else return c.skip n

def tag? (inFlow : Bool) (c : Cursor) : Option (Token × Cursor) := do
  let (t, c) ←
    if c.at? '<' then do
      let c ← tagAddress? true false (c.skip 1)
      if c.at? '>' then some (Token.tag none, c.skip 1) else none
    else
      let (name, c) := c.span isWord
      if c.at? '!' then do
        let c ← tagAddress? false false (c.skip 1)
        some (Token.tag (some ("!" ++ String.ofList name ++ "!")), c)
      else do
        let c ← tagAddress? false true c
        some (Token.tag (some "!"), c)
  if (inFlow && c.at? ',') || separates c.peek then return (t, c) else none

def versionNumber? (c : Cursor) : Option (Nat × Cursor) :=
  let (ds, c) := c.span Char.isDigit
  if ds.isEmpty || 9 < ds.length then none
  else some (ds.foldl (fun n d => n * 10 + (d.toNat - 48)) 0, c)

/-- A directive after its percent sign: the version, which is 1.1 or 1.2, or a tag handle with the
address that it stands for. -/
def directive? (c : Cursor) : Option (Token × Cursor) := do
  let (name, c) := c.span isWord
  if !separates c.peek then none
  let c := (c.span isSpace).2
  let (t, c) ←
    if name = "YAML".toList then do
      let (major, c) ← versionNumber? c
      if !c.at? '.' then none
      let (minor, c) ← versionNumber? (c.skip 1)
      if major = 1 ∧ (minor = 1 ∨ minor = 2) then some (Token.versionDirective, c) else none
    else if name = "TAG".toList then do
      if !c.at? '!' then none
      let (word, c) := (c.skip 1).span isWord
      let (handle, c) ←
        if c.at? '!' then some ("!" ++ String.ofList word ++ "!", c.skip 1)
        else if word.isEmpty then some ("!", c) else none
      if !c.peek.any isSpace then none
      let c ← tagAddress? true false (c.span isSpace).2
      if separates c.peek then some (Token.tagDirective handle, c) else none
    else none
  let c ← lineRest? c
  return (t, c)

/-! ## The lexer -/

/-- A place where a key may have started. -/
structure PossibleKey where
  /-- Whether only a key may stand there. -/
  required : Bool
  place : Nat
  index : Nat
  line : Nat
  column : Nat

/-- A text that has been cut in part. -/
structure Lexer where
  cursor : Cursor
  /-- The tokens so far, the last one first. -/
  tokens : List Token := []
  /-- The columns of the open block collections, the innermost first. -/
  indents : List Nat := []
  /-- The last possible key of each open flow collection, the innermost first, and of what is
  around them. -/
  keys : List (Option PossibleKey) := [none]
  keyAllowed : Bool := true

namespace Lexer

/-- The column of the innermost block collection, minus one for none. -/
def indent (l : Lexer) : Int :=
  match l.indents with
  | [] => -1
  | i :: _ => i

def inFlow (l : Lexer) : Bool := 1 < l.keys.length

def emit (l : Lexer) (t : Token) : Lexer := { l with tokens := t :: l.tokens }

def skip (l : Lexer) (n : Nat) : Lexer := { l with cursor := l.cursor.skip n }

def insert (l : Lexer) (place : Nat) (ts : List Token) : Lexer :=
  let n := l.tokens.length - place
  { l with tokens := l.tokens.take n ++ ts.reverse ++ l.tokens.drop n }

/-- Gives up the possible key of the innermost collection. -/
def dropKey? (l : Lexer) : Option Lexer :=
  match l.keys with
  | some k :: rest => if k.required then none else some { l with keys := none :: rest }
  | _ => some l

/-- Remembers that a key may start here, if one may. -/
def saveKey? (l : Lexer) : Option Lexer :=
  if l.keyAllowed then do
    let l ← l.dropKey?
    let k : PossibleKey :=
      { required := !l.inFlow && l.indent == (l.cursor.column : Int)
        place := l.tokens.length
        index := l.cursor.index
        line := l.cursor.line
        column := l.cursor.column }
    return { l with keys := some k :: l.keys.tail }
  else some l

/-- Whether the start of a key is in the same line and not too far back. -/
def isFresh (l : Lexer) (k : PossibleKey) : Bool :=
  k.line == l.cursor.line && l.cursor.index ≤ k.index + 1024

/-- Closes the block collections that are indented further than a column. -/
def close (l : Lexer) (column : Int) : Lexer :=
  if l.inFlow then l
  else
    let closed := l.indents.takeWhile fun (i : Nat) => decide (column < i)
    { l with
      tokens := closed.map (fun _ => Token.blockEnd) ++ l.tokens
      indents := l.indents.drop closed.length }

def isDeeper (l : Lexer) (column : Nat) : Bool := !l.inFlow && l.indent < column

/-- Opens a block collection with a token, if the cursor is indented further, where a key may
start. -/
def open? (l : Lexer) (t : Token) : Option Lexer :=
  if l.inFlow then some l
  else if !l.keyAllowed then none
  else if l.isDeeper l.cursor.column then
    some { l.emit t with indents := l.cursor.column :: l.indents }
  else some l

/-- Skips blanks, comments and line breaks, and a byte order mark at the start of a line, which
takes a column. Outside flow collections a key may start in a new line, and where one may start,
tabs do not count as blanks. -/
def skipBlank : Nat → Lexer → Lexer
  | 0, l => l
  | fuel + 1, l =>
    let c := l.cursor
    let c := if c.column = 0 ∧ c.peek = some (Char.ofNat 0xFEFF) then c.skip 1 else c
    let tabs := l.inFlow || !l.keyAllowed
    let c := (c.span fun x => x = ' ' || (tabs && x = '\t')).2
    let c := if c.at? '#' then (c.span fun x => !isBreak x).2 else c
    if c.atBreak then
      skipBlank fuel
        { l with cursor := c.readBreak.2, keyAllowed := l.keyAllowed || !l.inFlow }
    else { l with cursor := c }

/-- Ends a document's content: every block collection closes and no key may start. -/
def endContent? (l : Lexer) : Option Lexer := do
  let l ← (l.close (-1)).dropKey?
  return { l with keyAllowed := false }

/-- The colon of a mapping. It makes what may be a key one. -/
def value? (l : Lexer) : Option Lexer := do
  let fresh ← match l.keys.head?.join with
    | none => some none
    | some k => if l.isFresh k then some (some k) else if k.required then none else some none
  match fresh with
  | some k =>
    let opens := l.isDeeper k.column
    let l := l.insert k.place (if opens then [.blockMappingStart, .key] else [.key])
    let l := { l with
      indents := if opens then k.column :: l.indents else l.indents
      keys := none :: l.keys.tail
      keyAllowed := false }
    return (l.emit .value).skip 1
  | none =>
    let l := { l with keys := none :: l.keys.tail }
    let l ← l.open? .blockMappingStart
    return ({ l with keyAllowed := !l.inFlow }.emit .value).skip 1

/-- A token that may start a key, read by `read` from the cursor on. -/
def node? (l : Lexer) (read : Cursor → Option (Token × Cursor)) : Option Lexer := do
  let l ← l.saveKey?
  let (t, c) ← read l.cursor
  return { l.emit t with cursor := c, keyAllowed := false }

def openFlow? (l : Lexer) (t : Token) : Option Lexer := do
  let l ← l.saveKey?
  return { (l.emit t).skip 1 with keys := none :: l.keys, keyAllowed := true }

def closeFlow? (l : Lexer) (t : Token) : Option Lexer := do
  let l ← l.dropKey?
  return { (l.emit t).skip 1 with
    keys := if l.inFlow then l.keys.tail else l.keys
    keyAllowed := false }

def quoted? (quote : Char) (c : Cursor) : Option (Token × Cursor) := do
  let c := c.skip 1
  let (text, c) ← Yaml.quoted? quote (c.rest.length + 1) [] c
  return (.scalar false (String.ofList text), c)

/-- A plain scalar. After a line break behind it a key may start. -/
def plain? (l : Lexer) : Option Lexer := do
  let l ← l.saveKey?
  let margin := (l.indent + 1).toNat
  let (p, c) ← Plain.extend l.inFlow margin (l.cursor.rest.length + 1) ⟨[], {}⟩ l.cursor
  return { l.emit (.scalar true (String.ofList p.text)) with
    cursor := c, keyAllowed := p.gap.broken }

def block? (l : Lexer) (literal : Bool) : Option Lexer := do
  let l ← l.dropKey?
  let (text, c) ← Yaml.block? literal l.indent (l.cursor.skip 1)
  return { l.emit (.scalar false (String.ofList text)) with cursor := c, keyAllowed := true }

/-- Whether a plain scalar may start with a character before another one. -/
def startsPlain (inFlow : Bool) (c : Char) (next : Option Char) : Bool :=
  !(separates (some c) || "-?:,[]\x7b\x7d#&*!|>'\"%@\x60".toList.contains c) ||
    (c = '-' && !next.any isSpace) ||
    (!inFlow && (c = '?' || c = ':') && !separates next)

def token? (l : Lexer) (x : Char) : Option Lexer :=
  let c := l.cursor
  let next := c.ahead 1
  let apart := separates next
  if c.column = 0 ∧ x = '%' then do
    let l ← l.endContent?
    let (t, c) ← directive? (c.skip 1)
    return { l.emit t with cursor := c }
  else if c.atMarker then do
    let l ← l.endContent?
    return (l.emit (if x = '-' then .documentStart else .documentEnd)).skip 3
  else if x = '[' then l.openFlow? .flowSequenceStart
  else if x = '\x7b' then l.openFlow? .flowMappingStart
  else if x = ']' then l.closeFlow? .flowSequenceEnd
  else if x = '\x7d' then l.closeFlow? .flowMappingEnd
  else if x = ',' then do
    let l ← l.dropKey?
    return { (l.emit .flowEntry).skip 1 with keyAllowed := true }
  else if x = '-' && apart then do
    let l ← (← l.open? .blockSequenceStart).dropKey?
    return { (l.emit .blockEntry).skip 1 with keyAllowed := true }
  else if x = '?' && (l.inFlow || apart) then do
    let l ← (← l.open? .blockMappingStart).dropKey?
    return { (l.emit .key).skip 1 with keyAllowed := !l.inFlow }
  else if x = ':' && (l.inFlow || apart) then l.value?
  else if x = '*' then l.node? fun c => (anchorName? (c.skip 1)).map fun r => (.reference r.1, r.2)
  else if x = '&' then l.node? fun c => (anchorName? (c.skip 1)).map fun r => (.anchor r.1, r.2)
  else if x = '!' then l.node? fun c => tag? l.inFlow (c.skip 1)
  else if x = '|' && !l.inFlow then l.block? true
  else if x = '>' && !l.inFlow then l.block? false
  else if x = '\'' || x = '"' then l.node? (quoted? x)
  else if startsPlain l.inFlow x next then l.plain?
  else none

def finish? : Nat → Lexer → Option (List Token)
  | 0, _ => none
  | fuel + 1, l =>
    let l := l.skipBlank (l.cursor.rest.length + 1)
    let l := l.close l.cursor.column
    match l.cursor.peek with
    | none => l.endContent?.map fun l => l.tokens.reverse
    | some x => (l.token? x).bind fun l => l.finish? fuel

end Lexer

def tokens? (s : String) : Option (List Token) :=
  let cs := s.toList
  if cs.all isAllowed then Lexer.finish? (cs.length + 2) { cursor := { rest := cs } } else none

end Roster.Document.Yaml
