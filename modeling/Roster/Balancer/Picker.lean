import Roster.Call
import Roster.Config
import Roster.Error
import Roster.Ring

/-!
# Pickers

A picker chooses a connection for each call. A shard picker takes the call's shard key to the ring
and returns the connection of the address to which the key belongs; calls without a key go by a
policy. A picker never changes; when the ready connections do, a new one is built.
-/

namespace Roster

structure ShardOptions where
  replicas : Nat := defaultReplicas
  keyOf : Call → Option String := Call.shardKey?
  missingKey : MissingKey := .sentinel MissingKey.defaultSentinel

namespace ShardOptions

/-- The options with another number of points, at least one. -/
def withReplicas (o : ShardOptions) (n : Nat) : ShardOptions := { o with replicas := max n 1 }

def describe (o : ShardOptions) : String :=
  "ShardOptions \x7b replicas: " ++ toString o.replicas ++ ", missing_key: " ++
    o.missingKey.describe ++ ", .. \x7d"

end ShardOptions

def BalancerConfig.shardOptions (c : BalancerConfig) : ShardOptions :=
  ({ missingKey := c.missingKey } : ShardOptions).withReplicas c.replicas

/-- A picker that spreads calls by their shard keys. -/
structure ShardPicker (C : Type) where
  ring : Ring
  connections : Table C
  options : ShardOptions

namespace ShardPicker

variable {C : Type}

def route? (p : ShardPicker C) (key : String) : Option String :=
  p.ring.owner? .standard key

def connectionFor (p : ShardPicker C) (key : String) : Except RoutingError C :=
  match p.route? key with
  | none => .error .noConnectionAvailable
  | some address =>
    match p.connections.get? address with
    | some c => .ok c
    | none => .error (.ringInconsistent address)

/-- The connections of which a call may get any. There is one, unless the call is sent anywhere. -/
def candidates (p : ShardPicker C) (call : Call) : Except RoutingError (List C) :=
  match p.options.keyOf call with
  | some key => (p.connectionFor key).map fun c => [c]
  | none =>
    match p.options.missingKey with
    | .sentinel key => (p.connectionFor key).map fun c => [c]
    | .reject => .error .missingShardKey
    | .random =>
      match p.connections.entries with
      | [] => .error .noConnectionAvailable
      | entries => .ok (entries.map (·.2))

end ShardPicker

inductive Picker (C : Type) where
  | failing (error : RoutingError)
  | sharding (p : ShardPicker C)

namespace Picker

variable {C : Type}

def candidates (p : Picker C) (call : Call) : Except RoutingError (List C) :=
  match p with
  | failing e => .error e
  | sharding p => p.candidates call

/-- The connection of a call, where `draw` decides among several candidates. -/
def pick (p : Picker C) (draw : Nat) (call : Call) : Except RoutingError C := do
  let cs ← p.candidates call
  match cs[draw % cs.length]? with
  | some c => .ok c
  | none => .error .noConnectionAvailable

end Picker

end Roster
