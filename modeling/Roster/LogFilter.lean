import Roster.Config

/-!
# Log filters

A log filter is a list of directives between commas. A directive names a level, a target or both,
and may ask for a span and its fields: `target[span{field=value}]=level`. Every character beyond
ASCII counts as a letter.
-/

namespace Roster.LogFilter

def levelNames : List String := ["error", "warn", "info", "debug", "trace", "off"]

/-- Whether a text is a level: a name in any case, or a number up to five. -/
def isLevel (cs : List Char) : Bool :=
  levelNames.contains (String.ofList (cs.map Char.toLower)) || isNumber cs
where
  isNumber (cs : List Char) : Bool :=
    let digits := match cs with
      | '+' :: rest => rest
      | _ => cs
    !digits.isEmpty && digits.all Char.isDigit &&
      (digits.dropWhile (· = '0')).length ≤ 1 && digits.getLast?.all (· ≤ '5')

def startsDirective (c : Char) : Bool :=
  c.isAlphanum || c = '-' || c = ':' || c = '_' || 0x80 ≤ c.toNat

/-- Whether a text asks for a level: with an equals sign and a level, which may be left out, or not
at all. -/
def isLevelPart : List Char → Bool
  | [] => true
  | '=' :: level => level.isEmpty || isLevel level
  | _ => false

/-- Whether a text after an opening bracket is a span, perhaps with fields, and a level. -/
def isSpanPart (cs : List Char) : Bool :=
  let isName := fun (c : Char) => c != ']' && c != '\x7b'
  match cs.dropWhile isName with
  | ']' :: rest => isLevelPart rest
  | '\x7b' :: fields =>
    let field := fields.takeWhile (· != '\x7d')
    match fields.dropWhile (· != '\x7d') with
    | '\x7d' :: ']' :: rest => !field.isEmpty && isLevelPart rest
    | _ => false
  | _ => false

def isDirective (cs : List Char) : Bool :=
  match cs with
  | [] => false
  | '[' :: rest => isSpanPart rest
  | c :: _ =>
    startsDirective c &&
      match cs.dropWhile fun x => x != '=' && x != '[' with
      | '[' :: rest => isSpanPart rest
      | rest => isLevelPart rest

/-- Whether a text is a log filter. Directives that are empty do not count. -/
def isValid (text : String) : Bool :=
  ((text.splitOn ",").filter (· != "")).all fun d => isDirective d.toList

def complaint (text : String) : String := "invalid log level `" ++ text ++ "`"

def alreadyInstalled : String := "failed to install tracing subscriber"

/-- What is wrong with installing a log of some settings, if anything is. A program has one log. -/
def refusal? (isInstalled : Bool) (c : LogConfig) : Option String :=
  if !isValid c.level then some (complaint c.level)
  else if isInstalled then some alreadyInstalled
  else none

end Roster.LogFilter
