import Roster.Document.Decoder
import Roster.Instance

/-!
# Instances in documents

Services, instances and changes are read from nodes by `ofNode?` and written as nodes by `toNode`.
-/

namespace Roster

open Document

/-- A service as documents describe it: by its name. -/
structure ServiceName where
  name : String
  deriving DecidableEq, Repr

namespace ServiceName

def toNode (s : ServiceName) : Node := .ofFields [("name", .ofText s.name)]

def ofNode? (c : Convention) (node : Node) : Option ServiceName := do
  let f ← node.fields? c ["name"]
  let name ← f.required "name" Node.text?
  return { name }

end ServiceName

namespace Instance

def toNode (i : Instance) : Node :=
  .ofFields [("service_name", .ofText i.service), ("address", .ofText i.address)]

def ofNode? (c : Convention) (node : Node) : Option Instance := do
  let f ← node.fields? c ["service_name", "address"]
  let service ← f.required "service_name" Node.text?
  let address ← f.required "address" Node.text?
  return { service, address }

end Instance

namespace ChangeKind

def names : List (String × ChangeKind) :=
  [(registered.name, registered), (deregistered.name, deregistered)]

def toNode (k : ChangeKind) : Node := .ofText k.name

def ofNode? (c : Convention) (node : Node) : Option ChangeKind := node.choose? c names

end ChangeKind

namespace Change

def toNode (c : Change) : Node :=
  .ofFields [("instance", c.member.toNode), ("change_type", c.kind.toNode)]

def ofNode? (c : Convention) (node : Node) : Option Change := do
  let f ← node.fields? c ["instance", "change_type"]
  let member ← f.required "instance" (Instance.ofNode? c)
  let kind ← f.required "change_type" (ChangeKind.ofNode? c)
  return { member, kind }

end Change

end Roster
