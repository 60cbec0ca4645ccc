import Roster.Connections
import Roster.Uri

/-!
# Endpoints

A connector that connects lazily: it reads a member's address and leaves the rest to the first
request. An address without a scheme is one of plain HTTP, and one with the scheme `unix` names a
socket among the files, whose path is taken as it is.
-/

namespace Roster

inductive Endpoint where
  | web (uri : Uri)
  | socket (path : String)
  deriving DecidableEq, Repr

namespace Endpoint

def namesScheme : List Char → Bool
  | [] => false
  | ':' :: '/' :: '/' :: _ => true
  | _ :: rest => namesScheme rest

/-- The path of a socket, if a text names one, with its leading double slash left out. -/
def socketPath? : List Char → Option (List Char)
  | 'u' :: 'n' :: 'i' :: 'x' :: ':' :: '/' :: '/' :: path => some path
  | 'u' :: 'n' :: 'i' :: 'x' :: ':' :: path => some path
  | _ => none

def parse? (text : String) : Option Endpoint :=
  match socketPath? text.toList with
  | some path => some (socket (String.ofList path))
  | none => (Uri.parse? text).map web

def withScheme (address : String) : String :=
  if namesScheme address.toList then address else "http://" ++ address

/-- Connects to a member, if its address can be read. -/
def connect (member : Instance) : Except RoutingError Endpoint :=
  match parse? (withScheme member.address) with
  | some endpoint => .ok endpoint
  | none => .error (.connect member.address "invalid URI")

def connector : Connector Unit Endpoint := fun w member => (connect member, w)

end Endpoint

end Roster
