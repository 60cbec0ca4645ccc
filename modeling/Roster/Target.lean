import Roster.Error

/-!
# Targets

A target names a service in the form `scheme://authority/endpoint`. The authority may be empty or
left out together with its slash, and slashes around the endpoint do not count.
-/

namespace Roster

/-- What a client dials. -/
structure Target where
  scheme : String
  /-- What stands between the scheme and the endpoint; no resolver here looks at it. -/
  authority : String
  endpoint : String
  deriving DecidableEq, Repr

namespace Target

def render (t : Target) : String :=
  t.scheme ++ "://" ++ t.authority ++ "/" ++ t.endpoint

/-- What stands before and after the first `://` of a text. -/
def splitScheme? : List Char → Option (List Char × List Char)
  | [] => none
  | ':' :: '/' :: '/' :: rest => some ([], rest)
  | c :: rest => (splitScheme? rest).map fun p => (c :: p.1, p.2)

/-- The authority and the rest of what follows a scheme: they are parted by the first slash, and
without one there is no authority. -/
def splitAuthority (cs : List Char) : List Char × List Char :=
  match cs.dropWhile (· != '/') with
  | [] => ([], cs)
  | _ :: rest => (cs.takeWhile (· != '/'), rest)

/-- A text without the slashes around it. -/
def trimSlashes (cs : List Char) : List Char :=
  ((cs.dropWhile (· == '/')).reverse.dropWhile (· == '/')).reverse

inductive Flaw where
  | missingScheme
  | emptyScheme
  | missingEndpoint
  deriving DecidableEq, Repr

def Flaw.describe (text : String) : Flaw → String
  | missingScheme => "missing scheme in `" ++ text ++ "`"
  | emptyScheme => "empty scheme in `" ++ text ++ "`"
  | missingEndpoint => "missing endpoint in `" ++ text ++ "`"

/-- Reads a target. -/
def read (text : String) : Except Flaw Target :=
  match splitScheme? text.toList with
  | none => .error .missingScheme
  | some (scheme, rest) =>
    let (authority, path) := splitAuthority rest
    let endpoint := trimSlashes path
    if scheme.isEmpty then .error .emptyScheme
    else if endpoint.isEmpty then .error .missingEndpoint
    else .ok ⟨String.ofList scheme, String.ofList authority, String.ofList endpoint⟩

def parse (text : String) : Except RoutingError Target :=
  (read text).mapError fun flaw => .invalidTarget (flaw.describe text)

end Target

end Roster
