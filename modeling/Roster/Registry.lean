import Roster.Config
import Roster.Consul
import Roster.Registry.File
import Roster.Registry.Polling

/-!
# Registries

A registry tells the members of services and lets watchers subscribe to their changes. Where the
members come from differs: a fixed listing, a document, a catalog, or nowhere. What a watcher can
do with its subscription is the same everywhere, except that the registry without members holds on
to a subscription only through its handle.
-/

namespace Roster

/-- A registry. -/
inductive Registry where
  | static (state : State)
  | noop (state : State)
  | file (r : FileRegistry)
  | polling (r : PollingRegistry)

/-- The state after the addresses of every listed service were committed. -/
def State.ofListing (buffer : Nat) (listing : Listing) : State :=
  listing.entries.foldl (fun s e => (s.commitAddresses e.1 e.2).2) (State.new buffer)

namespace Registry

def ofListing (listing : Listing) : Registry :=
  .static (State.ofListing defaultWatchBuffer listing)

def empty : Registry := .noop (State.new 1)

def state : Registry → State
  | static s => s
  | noop s => s
  | file r => r.state
  | polling r => r.state

def withState (r : Registry) (s : State) : Registry :=
  match r with
  | static _ => .static s
  | noop _ => .noop s
  | file f => .file { f with state := s }
  | polling p => .polling { p with state := s }

def instances (r : Registry) (service : String) : List Instance :=
  r.state.instances service

/-- Adds a member to a service. No registry here takes members this way, and none complains. -/
def register (r : Registry) (_ : Instance) : Registry := r

/-- Takes a member off a service. No registry here gives members up this way, and none complains.
-/
def deregister (r : Registry) (_ : Instance) : Registry := r

/-! ## Watching -/

/-- A number that no subscription has. -/
def nextId (r : Registry) : Nat :=
  r.state.subscriptions.foldl (fun n sub => max n (sub.id + 1)) 0

def watch (r : Registry) (id : Nat) (service : String) : Registry :=
  match r with
  | polling p => .polling (p.subscribe id service)
  | _ => r.withState (r.state.subscribe id service)

/-- Whether a queue of the capacity that a subscription to a service needs can be made. -/
def canWatch (r : Registry) (service : String) : Bool :=
  r.state.capacityFor service ≤ State.maxCapacity

def receive (r : Registry) (id : Nat) (limit : Option Nat) : Option (Receipt × Registry) :=
  (r.state.receive id limit).map fun q => (q.1, r.withState q.2)

def stop (r : Registry) (id : Nat) : Registry :=
  match r with
  | polling p => .polling (p.stop id)
  | _ => r.withState (r.state.stop id).2

def isStopped (r : Registry) (id : Nat) : Bool := r.state.isStopped id

def dropReceiver (r : Registry) (id : Nat) : Registry :=
  r.withState (r.state.dropReceiver id)

/-- Drops the handle of a subscription without stopping it. -/
def dropHandle (r : Registry) (id : Nat) : Registry :=
  match r with
  | noop s => .noop (s.alter id fun sub => { sub with isListed := false })
  | _ => r

/-- Lets background work go on until `n` changes wait for a subscription. -/
def awaitEvents (r : Registry) (disk : Disk) (id n : Nat) : Registry :=
  match r with
  | file f => .file (f.settle disk)
  | polling p => .polling (p.passUntilEvents id n patience)
  | _ => r
where
  /-- How many waits of tasks are sat out at most. -/
  patience : Nat := 100000

/-! ## Registries from the configuration -/

def defaultConsulAddress : String := "http://localhost:8500"

/-- The registry that a configuration describes. -/
def create (c : RegistryConfig) (disk : Disk) (transport : WebTransport) (inRuntime : Bool) :
    Except RoutingError Registry :=
  match c.backend with
  | .consul => do
    let client ← ConsulClient.create (c.address.getD defaultConsulAddress) c.datacenter
    let options : PollingOptions :=
      { period := c.refreshIntervalMs, aliases := c.aliases, watchBuffer := c.watchBuffer }
    let r ← PollingRegistry.create (client.catalog transport) options inRuntime
    return .polling r
  | .file =>
    match c.path with
    | none => .error (.config "file registry requires `path`")
    | some path =>
      (FileRegistry.openFile disk path ⟨c.watch, c.watchBuffer⟩ inRuntime).map .file
  | .static => .ok (ofListing c.services)
  | .noop => .ok empty

end Registry

end Roster
