import Roster.Config
import Roster.Connections
import Roster.Resolver
import Roster.Target

/-!
# Dialing

A dialer knows which registry answers for a scheme and how the balancer of a policy works. To dial
a target is to make a channel whose connections follow the members of the target's service.
Dropping the channel closes both its resolver and its connections.
-/

namespace Roster

/-- Which registry answers for each scheme, and how the balancer of each policy works. -/
structure Dialer where
  registries : List Registry := []
  /-- The place in `registries` of the one that answers for each scheme. -/
  resolvers : Table Nat := Table.empty
  balancers : Table ShardOptions := Table.empty

structure Dialed (C : Type) where
  target : Target
  /-- The place of the registry that it follows. -/
  source : Nat
  connections : Connections C
  resolver : Resolver

/-- Connections as a receiver of member lists. -/
def Connections.sink {σ C : Type} (connect : Connector σ C) : Sink (Connections C × σ) :=
  fun w members =>
    match w.1.update connect w.2 members with
    | .ok next => (.ok (), next)
    | .error e => (.error e, w)

namespace Dialer

variable {σ C : Type}

/-! ## Installing -/

/-- Adds a registry, and returns its place. -/
def addRegistry (d : Dialer) (r : Registry) : Nat × Dialer :=
  (d.registries.length, { d with registries := d.registries ++ [r] })

def registryAt (d : Dialer) (place : Nat) : Registry := d.registries.getD place Registry.empty

def setRegistry (d : Dialer) (place : Nat) (r : Registry) : Dialer :=
  { d with registries := d.registries.set place r }

def registerResolver (d : Dialer) (scheme : String) (place : Nat) : Dialer :=
  { d with resolvers := d.resolvers.set scheme place }

def registerBalancer (d : Dialer) (policy : String) (options : ShardOptions) : Dialer :=
  { d with balancers := d.balancers.set policy options }

/-- Installs a registry and a shard balancer under their own names. -/
def installDefaults (d : Dialer) (place : Nat) (options : ShardOptions) : Dialer :=
  (d.registerResolver registryScheme place).registerBalancer shardPolicy options

/-- Installs the registry and the balancer that a configuration describes, and returns the place of
the registry. -/
def installConfig (d : Dialer) (c : RoutingConfig) (disk : Disk) (transport : WebTransport)
    (inRuntime : Bool) : Except RoutingError (Nat × Dialer) := do
  let registry ← Registry.create c.registry disk transport inRuntime
  let (place, d) := d.addRegistry registry
  return (place,
    (d.registerResolver c.resolver.scheme place).registerBalancer c.balancer.policy
      c.balancer.shardOptions)

/-! ## Dialing -/

/-- Dials a target under a policy. -/
def dial (d : Dialer) (connect : Connector σ C) (w : σ) (inRuntime : Bool)
    (target policy : String) : Except RoutingError (Dialed C × Dialer × σ) := do
  let target ← Target.parse target
  let some source := d.resolvers.get? target.scheme | .error (.unknownScheme target.scheme)
  let some options := d.balancers.get? policy | .error (.unknownPolicy policy)
  let registry := d.registryAt source
  let (resolver, registry, connections, w) ←
    Resolver.start inRuntime target.endpoint registry.nextId registry (Connections.sink connect)
      (Connections.new options, w)
  return ({ target, source, connections, resolver }, d.setRegistry source registry, w)

/-- What dialing a target under a policy subscribes to: the place of a registry, and a service. -/
def sought? (d : Dialer) (inRuntime : Bool) (target policy : String) : Option (Nat × String) :=
  match Target.parse target with
  | .error _ => none
  | .ok target =>
    if inRuntime && (d.balancers.get? policy).isSome then
      (d.resolvers.get? target.scheme).map (·, target.endpoint)
    else none

/-- Whether the queue that dialing a target under a policy needs, if any, can be made. -/
def canDial (d : Dialer) (inRuntime : Bool) (target policy : String) : Bool :=
  (d.sought? inRuntime target policy).all fun (place, service) =>
    (d.registryAt place).canWatch service

end Dialer

namespace Dialed

variable {σ C : Type}

/-- Hands the members on to a channel without waiting for a change. -/
def resolveNow (c : Dialed C) (d : Dialer) (connect : Connector σ C) (w : σ) : Dialed C × σ :=
  let (connections, w) :=
    c.resolver.resolveNow (d.registryAt c.source) (Connections.sink connect) (c.connections, w)
  ({ c with connections }, w)

def turn (c : Dialed C) (d : Dialer) (connect : Connector σ C) (w : σ) : Dialed C × Dialer × σ :=
  let (resolver, registry, connections, w) :=
    c.resolver.turn (d.registryAt c.source) (Connections.sink connect) (c.connections, w)
  ({ c with resolver, connections }, d.setRegistry c.source registry, w)

/-- Lets the background work of a channel go on until it waits or is over. -/
def settle (c : Dialed C) (d : Dialer) (connect : Connector σ C) (w : σ) : Dialed C × Dialer × σ :=
  let (c, d, w) := c.turn d connect w
  c.turn d connect w

def drop (c : Dialed C) : Dialed C :=
  { c with resolver := c.resolver.close, connections := c.connections.close }

end Dialed

end Roster
