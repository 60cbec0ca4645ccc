import Roster.Consul.Address
import Roster.Document.Json
import Roster.Error
import Roster.Registry.Catalog

/-!
# Consul

A catalog over the web. The healthy instances of a service are asked for by a request whose path
ends with the service's name, and come back as a document that lists the node and the port of each.
-/

namespace Roster

open Document

structure ConsulClient where
  /-- The address of the catalog, without slashes at its end. -/
  address : String
  datacenter : Option String
  deriving DecidableEq, Repr

structure WebResponse where
  status : Nat
  body : String

/-- What carries a request for an address to a catalog and brings back a response, or a reason why
there is none. -/
abbrev WebTransport := String → Except String WebResponse

namespace ConsulClient

/-- A client for an address. An empty datacenter counts as none. -/
def create (address : String) (datacenter : Option String) : Except RoutingError ConsulClient :=
  let trimmed := (address.toList.reverse.dropWhile (· = '/')).reverse
  if trimmed.isEmpty then .error (.config "consul address is empty")
  else .ok ⟨String.ofList trimmed, datacenter.filter (· != "")⟩

def healthAddress (c : ConsulClient) (service : String) : String :=
  c.address ++ "/v1/health/service/" ++ service

def queryPairs (c : ConsulClient) : List (String × String) :=
  ("passing", "true") :: (c.datacenter.map fun dc => ("dc", dc)).toList

/-- The path and the query of the request for a service. -/
def requestTarget (c : ConsulClient) (service : String) : String :=
  String.ofList (Consul.requestTarget (c.healthAddress service).toList c.queryPairs)

def entryOf? (node : Node) : Option CatalogEntry := do
  let f ← node.fields? Json.convention ["Node", "Service"]
  let host ← f.required "Node" fun n => do
    let g ← n.fields? Json.convention ["Node"]
    g.required "Node" Node.text?
  let port ← f.required "Service" fun n => do
    let g ← n.fields? Json.convention ["Port"]
    g.required "Port" (Node.natUpTo? 65535)
  return ⟨host, port⟩

/-- The entries in a response. A status from 400 on is a failure. -/
def decode (r : WebResponse) : Except RoutingError (List CatalogEntry) :=
  if 400 ≤ r.status then .error (.catalog ("status " ++ toString r.status))
  else match (Json.read? r.body).bind (Node.listOf? entryOf?) with
    | some entries => .ok entries
    | none => .error (.catalog "malformed response")

def healthyInstances (c : ConsulClient) (transport : WebTransport) (service : String) :
    Except RoutingError (List CatalogEntry) :=
  match transport (c.requestTarget service) with
  | .ok r => decode r
  | .error reason => .error (.catalog reason)

def catalog (c : ConsulClient) (transport : WebTransport) : Catalog where
  script name _ := some { result := (c.healthyInstances transport name).mapError (·.message) }

end ConsulClient

end Roster
