import Roster.Config
import Roster.Document.Decoder

/-!
# Settings in documents

Each settings type is read from a node by `ofNode?` and written as one by `toNode`. A missing
setting takes its default, an unknown one is skipped, and a misspelt name of a choice is refused.
-/

namespace Roster

open Document

/-! ## The policy for calls without a key -/

namespace MissingKey

/-- A policy: its name under `policy` and, for a sentinel, the key under `key`. -/
def toNode : MissingKey → Node
  | sentinel key => .ofFields [("policy", .ofText "sentinel"), ("key", .ofText key)]
  | reject => .ofFields [("policy", .ofText "reject")]
  | random => .ofFields [("policy", .ofText "random")]

/-- The policy of a name with what stands under `key`: a sentinel needs a text there, the others
nothing or null. -/
def ofParts? (policy : String) (key : Option Node) : Option MissingKey :=
  if policy = "sentinel" then (key.bind Node.text?).map sentinel
  else if policy = "reject" then if key.all Node.isNull then some reject else none
  else if policy = "random" then if key.all Node.isNull then some random else none
  else none

def policyNames : List String := ["sentinel", "reject", "random"]

/-- Reads a policy from a record or from a list of name and key. -/
def ofNode? (c : Convention) (node : Node) : Option MissingKey := do
  let fields ← node.fields? c ["policy", "key"]
  let policy ← fields.required "policy" (Node.choice? c policyNames)
  let key := fields.value? "key"
  if fields.named || key.isSome then ofParts? policy key else none

end MissingKey

/-! ## The parts of the configuration -/

namespace RegistryConfig

def toNode (c : RegistryConfig) : Node :=
  .ofFields [
    ("backend", .ofText c.backend.name),
    ("address", .ofText? c.address),
    ("datacenter", .ofText? c.datacenter),
    ("aliases", .ofFields (c.aliases.entries.map fun e => (e.1, .ofText e.2))),
    ("refresh_interval_secs", .integer c.refreshIntervalSecs),
    ("watch_buffer", .integer c.watchBuffer),
    ("path", .ofText? c.path),
    ("watch", .bool c.watch),
    ("services", .ofFields (c.services.entries.map fun e => (e.1, .list (e.2.map .ofText))))]

/-- The names of the settings, in the order in which a list gives them. -/
def fieldNames : List String :=
  ["backend", "address", "datacenter", "aliases", "refresh_interval_secs", "watch_buffer", "path",
    "watch", "services"]

def ofNode? (c : Convention) (node : Node) : Option RegistryConfig := do
  let f ← node.fields? c fieldNames
  let backend ← f.defaulted "backend" .noop (Node.choose? c Backend.names)
  let address ← f.optional "address" Node.text?
  let datacenter ← f.optional "datacenter" Node.text?
  let aliases ← f.defaulted "aliases" Table.empty (Node.tableOf? Node.text?)
  let refreshIntervalSecs ← f.defaulted "refresh_interval_secs" 30 (Node.natUpTo? maxWord64)
  let watchBuffer ← f.defaulted "watch_buffer" defaultWatchBuffer (Node.natUpTo? maxWord64)
  let path ← f.optional "path" Node.text?
  let watch ← f.defaulted "watch" false Node.bool?
  let services ← f.defaulted "services" Table.empty (Node.tableOf? (Node.listOf? Node.text?))
  return {
    backend, address, datacenter, aliases, refreshIntervalSecs, watchBuffer, path, watch, services }

end RegistryConfig

namespace ResolverConfig

def toNode (c : ResolverConfig) : Node :=
  .ofFields [("scheme", .ofText c.scheme)]

def ofNode? (c : Convention) (node : Node) : Option ResolverConfig := do
  let f ← node.fields? c ["scheme"]
  let scheme ← f.defaulted "scheme" registryScheme Node.text?
  return { scheme }

end ResolverConfig

namespace BalancerConfig

def toNode (c : BalancerConfig) : Node :=
  .ofFields [
    ("policy", .ofText c.policy),
    ("replicas", .integer c.replicas),
    ("missing_key", c.missingKey.toNode)]

def ofNode? (c : Convention) (node : Node) : Option BalancerConfig := do
  let f ← node.fields? c ["policy", "replicas", "missing_key"]
  let policy ← f.defaulted "policy" shardPolicy Node.text?
  let replicas ← f.defaulted "replicas" defaultReplicas (Node.natUpTo? maxWord32)
  let missingKey ← f.defaulted "missing_key" default (MissingKey.ofNode? c)
  return { policy, replicas, missingKey }

end BalancerConfig

namespace LogConfig

def toNode (c : LogConfig) : Node :=
  .ofFields [("level", .ofText c.level), ("format", .ofText c.format.name)]

def ofNode? (c : Convention) (node : Node) : Option LogConfig := do
  let f ← node.fields? c ["level", "format"]
  let level ← f.defaulted "level" "info" Node.text?
  let format ← f.defaulted "format" .text (Node.choose? c LogFormat.names)
  return { level, format }

end LogConfig

namespace RoutingConfig

def toNode (c : RoutingConfig) : Node :=
  .ofFields [
    ("registry", c.registry.toNode),
    ("resolver", c.resolver.toNode),
    ("balancer", c.balancer.toNode),
    ("logging", c.logging.toNode)]

def ofNode? (c : Convention) (node : Node) : Option RoutingConfig := do
  let f ← node.fields? c ["registry", "resolver", "balancer", "logging"]
  let registry ← f.defaulted "registry" {} (RegistryConfig.ofNode? c)
  let resolver ← f.defaulted "resolver" {} (ResolverConfig.ofNode? c)
  let balancer ← f.defaulted "balancer" {} (BalancerConfig.ofNode? c)
  let logging ← f.defaulted "logging" {} (LogConfig.ofNode? c)
  return { registry, resolver, balancer, logging }

end RoutingConfig

end Roster
