/-!
# Web addresses

Addresses of requests and of hosts: `scheme://authority/path?query#fragment`, an authority alone,
or a path alone. The fragment is left out.
-/

namespace Roster

/-- A web address. Each part is empty if it is not there. -/
structure Uri where
  scheme : String
  authority : String
  path : String
  query : Option String
  deriving DecidableEq, Repr

namespace Uri

def maxLength : Nat := 65534

def maxSchemeLength : Nat := 64

def isSchemeChar (c : Char) : Bool := c.isAlphanum || "+-.~".toList.contains c

def endsAuthority (c : Char) : Bool := c = '/' || c = '?' || c = '#'

/-- Whether a character may stand in an authority. Escapes may only stand before an at sign or
between brackets. -/
def isAuthorityChar (c : Char) : Bool :=
  c.isAlphanum || "!$&'()*+,-.:;=@[]_~%".toList.contains c

def isPathChar (c : Char) : Bool :=
  0x7F ≤ c.toNat || (0x21 ≤ c.toNat && !"#<>?\x60".toList.contains c)

def isQueryChar (c : Char) : Bool :=
  0x7F ≤ c.toNat || (0x21 ≤ c.toNat && !"\"#<>".toList.contains c)

structure AuthorityScan where
  /-- The colons that may part a port. -/
  colons : Nat := 0
  isOpened : Bool := false
  isShut : Bool := false
  hasEscape : Bool := false
  endsWithAt : Bool := false

def maxColons : Nat := 8

def AuthorityScan.see? (s : AuthorityScan) (c : Char) : Option AuthorityScan :=
  let s := { s with endsWithAt := false }
  if !isAuthorityChar c then none
  else if c = ':' then if maxColons ≤ s.colons then none else some { s with colons := s.colons + 1 }
  else if c = '[' then if s.hasEscape || s.isOpened then none else some { s with isOpened := true }
  else if c = ']' then
    if !s.isOpened || s.isShut then none
    else some { s with isShut := true, colons := 0, hasEscape := false }
  else if c = '@' then some { s with colons := 0, hasEscape := false, endsWithAt := true }
  else if c = '%' then some { s with hasEscape := true }
  else some s

/-- Whether a text is an authority. The empty text is one. -/
def isAuthority (cs : List Char) : Bool :=
  match cs.foldlM AuthorityScan.see? {} with
  | none => false
  | some s => s.isOpened == s.isShut && s.colons ≤ 1 && !s.endsWithAt && !s.hasEscape

/-- The scheme in front of a text and what follows it, or no scheme and the text. -/
def splitScheme? (cs : List Char) : Option (List Char × List Char) :=
  let scheme := cs.takeWhile isSchemeChar
  match cs.dropWhile isSchemeChar with
  | ':' :: '/' :: '/' :: rest =>
    if maxSchemeLength < scheme.length then none else some (scheme, rest)
  | _ => some ([], cs)

/-- The path and the query that a text spells up to a fragment. -/
def pathAndQuery? (cs : List Char) : Option (List Char × Option (List Char)) :=
  let path := cs.takeWhile fun c => c != '?' && c != '#'
  if !path.all isPathChar then none
  else match cs.dropWhile fun c => c != '?' && c != '#' with
    | '?' :: rest =>
      let query := rest.takeWhile (· != '#')
      if query.all isQueryChar then some (path, some query) else none
    | _ => some (path, none)

def ofParts (scheme authority path : List Char) (query : Option (List Char)) : Uri where
  scheme := String.ofList scheme
  authority := String.ofList authority
  path := String.ofList path
  query := query.map String.ofList

def parse? (text : String) : Option Uri :=
  let cs := text.toList
  if maxLength < text.utf8ByteSize then none
  else match cs with
    | [] => none
    | ['*'] => some (ofParts [] [] ['*'] none)
    | '/' :: _ => (pathAndQuery? cs).map fun p => ofParts [] [] p.1 p.2
    | _ => do
      let (scheme, rest) ← splitScheme? cs
      let isSchemed := rest.length < cs.length
      let authority := rest.takeWhile fun c => !endsAuthority c
      let after := rest.dropWhile fun c => !endsAuthority c
      if !isAuthority authority then none
      else if !isSchemed then
        if after.isEmpty then some (ofParts [] authority [] none) else none
      else if authority.isEmpty then none
      else do
        let (path, query) ← pathAndQuery? after
        return ofParts scheme authority (if path.isEmpty then ['/'] else path) query

end Uri

end Roster
