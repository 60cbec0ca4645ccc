import Roster.Document.Yaml.Cursor

/-!
# YAML: scalars

Plain scalars, scalars between quotes, and block scalars. Within the first two kinds a line break
folds into a space and further ones stay; a literal block keeps its line breaks and a folded block
folds those between lines that are not indented further. Each reader takes a scalar off a cursor
and fails where the notation forbids what it meets.
-/

namespace Roster.Document.Yaml

/-! ## Gaps between words -/

/-- What stands between two words of a scalar. -/
structure Gap where
  /-- The blanks, as long as no line break has come. -/
  spaces : List Char := []
  first : List Char := []
  further : List Char := []
  broken : Bool := false

/-- How a gap reads: blanks stay, a lone line feed becomes a space, and further line breaks stay.
-/
def Gap.text (g : Gap) : List Char :=
  if g.broken then
    if g.first = ['\n'] then if g.further.isEmpty then [' '] else g.further
    else g.first ++ g.further
  else g.spaces

/-- Reads blanks and line breaks into a gap. A tab that indents a line less than `margin` is
refused. -/
def Gap.extend (margin : Nat) : Nat → Gap → Cursor → Option (Gap × Cursor)
  | 0, _, _ => none
  | fuel + 1, g, c =>
    match c.peek with
    | none => some (g, c)
    | some x =>
      if isSpace x then
        if g.broken then
          if x = '\t' ∧ c.column < margin then none else extend margin fuel g (c.skip 1)
        else extend margin fuel { g with spaces := g.spaces ++ [x] } (c.skip 1)
      else if isBreak x then
        let (b, c) := c.readBreak
        if g.broken then extend margin fuel { g with further := g.further ++ b } c
        else extend margin fuel { g with spaces := [], first := b, broken := true } c
      else some (g, c)

/-! ## Plain scalars -/

def isFlowMark (c : Char) : Bool :=
  c = ',' || c = '[' || c = ']' || c = '\x7b' || c = '\x7d'

/-- The word in front of a text. In a flow collection a colon may not stand before a mark. -/
def plainWord? (inFlow : Bool) : List Char → Option (List Char)
  | [] => some []
  | c :: rest =>
    if separates (some c) then some []
    else if inFlow && c = ':' && (rest.head?.any fun x => isFlowMark x || x = '?') then none
    else if (c = ':' && separates rest.head?) || (inFlow && isFlowMark c) then some []
    else (plainWord? inFlow rest).map (c :: ·)

structure Plain where
  text : List Char
  gap : Gap

/-- Reads words and gaps until a comment, a marker, a shallower line or the end of the scalar. -/
def Plain.extend (inFlow : Bool) (margin : Nat) : Nat → Plain → Cursor → Option (Plain × Cursor)
  | 0, _, _ => none
  | fuel + 1, p, c =>
    if c.atMarker || c.at? '#' then some (p, c)
    else do
      let word ← plainWord? inFlow c.rest
      let p := if word.isEmpty then p else { text := p.text ++ p.gap.text ++ word, gap := {} }
      let c := c.skip word.length
      if !c.peek.any (fun x => isSpace x || isBreak x) then return (p, c)
      let (gap, c) ← p.gap.extend margin (c.rest.length + 1) c
      let p := { p with gap }
      if !inFlow && c.column < margin then return (p, c)
      p.extend inFlow margin fuel c

/-! ## Scalars between quotes -/

/-- The characters of a scalar between single quotes up to a blank, a line break or the closing
quote, and how many characters of the text they take. -/
def singleWord : List Char → List Char × Nat
  | [] => ([], 0)
  | '\'' :: '\'' :: rest =>
    let (w, n) := singleWord rest
    ('\'' :: w, n + 2)
  | c :: rest =>
    if c = '\'' || separates (some c) then ([], 0)
    else
      let (w, n) := singleWord rest
      (c :: w, n + 1)

def hexValue? (c : Char) : Option Nat :=
  if c.isDigit then some (c.toNat - 48)
  else if 'a' ≤ c ∧ c ≤ 'f' then some (c.toNat - 87)
  else if 'A' ≤ c ∧ c ≤ 'F' then some (c.toNat - 55)
  else none

def escape? (c : Char) : Option Char :=
  match c with
  | '0' => some (Char.ofNat 0x00)
  | 'a' => some (Char.ofNat 0x07)
  | 'b' => some (Char.ofNat 0x08)
  | 't' => some '\t'
  | '\t' => some '\t'
  | 'n' => some '\n'
  | 'v' => some (Char.ofNat 0x0B)
  | 'f' => some (Char.ofNat 0x0C)
  | 'r' => some '\r'
  | 'e' => some (Char.ofNat 0x1B)
  | ' ' => some ' '
  | '"' => some '"'
  | '/' => some '/'
  | '\\' => some '\\'
  | 'N' => some nextLine
  | '_' => some (Char.ofNat 0xA0)
  | 'L' => some lineSeparator
  | 'P' => some paragraphSeparator
  | _ => none

def codeWidth? (c : Char) : Option Nat :=
  match c with
  | 'x' => some 2
  | 'u' => some 4
  | 'U' => some 8
  | _ => none

def coded? (width : Nat) (cs : List Char) : Option Char := do
  if cs.length < width then none
  let n ← (cs.take width).foldlM (fun n c => (hexValue? c).map (n * 16 + ·)) 0
  if (0xD800 ≤ n ∧ n ≤ 0xDFFF) ∨ 0x10FFFF < n then none else return Char.ofNat n

structure DoubleWord where
  text : List Char
  /-- How many characters of the scalar it takes. -/
  width : Nat
  /-- Whether a backslash at the end of a line comes next. -/
  joins : Bool

/-- The characters of a scalar between double quotes up to a blank, a line break, a backslash
before a line break or the closing quote. -/
def doubleWord? : Nat → List Char → Option DoubleWord
  | 0, _ => none
  | fuel + 1, cs =>
    match cs with
    | [] => some ⟨[], 0, false⟩
    | '\\' :: c :: rest =>
      if isBreak c then some ⟨[], 0, true⟩
      else match codeWidth? c with
        | some k => do
          let x ← coded? k rest
          let w ← doubleWord? fuel (rest.drop k)
          return ⟨x :: w.text, w.width + 2 + k, w.joins⟩
        | none => do
          let x ← escape? c
          let w ← doubleWord? fuel rest
          return ⟨x :: w.text, w.width + 2, w.joins⟩
    | c :: rest =>
      if c = '"' || separates (some c) then some ⟨[], 0, false⟩
      else if c = '\\' then none
      else do
        let w ← doubleWord? fuel rest
        return ⟨c :: w.text, w.width + 1, w.joins⟩

def quoted? (quote : Char) : Nat → List Char → Cursor → Option (List Char × Cursor)
  | 0, _, _ => none
  | fuel + 1, text, c => do
    if c.atMarker || c.rest.isEmpty then none
    let w ← if quote = '"' then doubleWord? (c.rest.length + 1) c.rest
      else let (t, n) := singleWord c.rest; some ⟨t, n, false⟩
    let text := text ++ w.text
    let c := c.skip w.width
    if c.at? quote then return (text, c.skip 1)
    let (start, c) :=
      if w.joins then (({ broken := true } : Gap), (c.skip 1).readBreak.2) else (({} : Gap), c)
    let (gap, c) ← start.extend 0 (c.rest.length + 1) c
    quoted? quote fuel (text ++ gap.text) c

/-! ## Block scalars -/

/-- What a block scalar does with the line breaks at its end. -/
inductive Chomping where
  | clip
  | strip
  | keep
  deriving DecidableEq

def chomping? : Option Char → Option Chomping
  | some '+' => some .keep
  | some '-' => some .strip
  | _ => none

/-- The head of a block scalar after its indicator: its chomping and the indentation it announces,
zero for none. -/
def blockHead? (c : Cursor) : Option (Chomping × Nat × Cursor) :=
  match chomping? c.peek with
  | some ch =>
    match digit? (c.skip 1) with
    | some n => if n = 0 then none else some (ch, n, c.skip 2)
    | none => some (ch, 0, c.skip 1)
  | none =>
    match digit? c with
    | some n =>
      if n = 0 then none
      else match chomping? (c.ahead 1) with
        | some ch => some (ch, n, c.skip 2)
        | none => some (.clip, n, c.skip 1)
    | none => some (.clip, 0, c)
where
  digit? (c : Cursor) : Option Nat :=
    c.peek.bind fun x => if x.isDigit then some (x.toNat - 48) else none

def lineRest? (c : Cursor) : Option Cursor :=
  let (_, c) := c.span isSpace
  let c := if c.at? '#' then (c.span fun x => !isBreak x).2 else c
  if c.atLineEnd then some c.readBreak.2 else none

/-- Reads the empty lines of a block and the indentation of the next line. `indent` is zero as long
as it is not known; `deepest` is the deepest indentation so far. Returns the line breaks and the
deepest indentation. -/
def emptyLines? (indent : Nat) : Nat → List Char → Nat → Cursor → Option (List Char × Nat × Cursor)
  | 0, _, _, _ => none
  | fuel + 1, breaks, deepest, c =>
    let spaces := c.rest.takeWhile (· = ' ')
    let n := if indent = 0 then spaces.length else min spaces.length (indent - c.column)
    let c := c.skip n
    let deepest := max deepest c.column
    if (indent = 0 || c.column < indent) && c.at? '\t' then none
    else if c.atBreak then
      let (b, c) := c.readBreak
      emptyLines? indent fuel (breaks ++ b) deepest c
    else some (breaks, deepest, c)

structure Block where
  text : List Char
  ending : List Char
  further : List Char
  /-- Whether the last line started with a blank. -/
  blankStart : Bool

def Block.extend (literal : Bool) (indent : Nat) : Nat → Block → Cursor → Option (Block × Cursor)
  | 0, _, _ => none
  | fuel + 1, b, c =>
    if c.column = indent && !c.rest.isEmpty then do
      let blank := c.peek.any isSpace
      let joint :=
        if !literal && b.ending = ['\n'] && !b.blankStart && !blank then
          if b.further.isEmpty then [' '] else []
        else b.ending
      let (line, c) := c.span fun x => !isBreak x
      let (ending, c) := c.readBreak
      let (further, _, c) ← emptyLines? indent (c.rest.length + 1) [] 0 c
      let text := b.text ++ joint ++ b.further ++ line
      Block.extend literal indent fuel ⟨text, ending, further, blank⟩ c
    else some (b, c)

/-- A block scalar after its indicator, inside a collection indented by `outer`, minus one for
none. -/
def block? (literal : Bool) (outer : Int) (c : Cursor) : Option (List Char × Cursor) := do
  let (chomping, announced, c) ← blockHead? c
  let c ← lineRest? c
  let given : Nat :=
    if announced = 0 then 0 else if 0 ≤ outer then outer.toNat + announced else announced
  let (further, deepest, c) ← emptyLines? given (c.rest.length + 1) [] 0 c
  let indent := if given = 0 then max (max deepest (outer + 1).toNat) 1 else given
  let (b, c) ← Block.extend literal indent (c.rest.length + 1) ⟨[], [], further, false⟩ c
  let tail := match chomping with
    | .strip => []
    | .clip => b.ending
    | .keep => b.ending ++ b.further
  return (b.text ++ tail, c)

end Roster.Document.Yaml
