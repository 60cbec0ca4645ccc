import Roster.Registry

/-!
# Resolvers

A resolver keeps a receiver of member lists up to date. It subscribes to a service, hands the
present members on at once, and after that hands the members on whenever changes have come, always
the whole list as it is then: a change that was dropped, or several that came together, make no
difference. A receiver that refuses a list does not stop it. A closed resolver hands nothing on,
and gives its subscription up at its next turn.
-/

namespace Roster

/-- A receiver of member lists, whose state is a `ω`. It may refuse a list. -/
abbrev Sink (ω : Type) := ω → List Instance → Except RoutingError Unit × ω

/-- A resolver. -/
structure Resolver where
  service : String
  /-- The number of its subscription. -/
  watcher : Nat
  isClosed : Bool := false
  isRunning : Bool := true
  deriving DecidableEq, Repr

namespace Resolver

variable {ω : Type}

/-- Hands the members on as they are now. -/
def push (r : Resolver) (registry : Registry) (sink : Sink ω) (w : ω) : ω :=
  (sink w (registry.instances r.service)).2

/-- A resolver for a service, with its subscription under a new number. It needs a runtime for its
background work. -/
def start (inRuntime : Bool) (service : String) (id : Nat) (registry : Registry) (sink : Sink ω)
    (w : ω) : Except RoutingError (Resolver × Registry × ω) :=
  if inRuntime then
    let r : Resolver := { service, watcher := id }
    let registry := registry.watch id service
    .ok (r, registry, r.push registry sink w)
  else .error (.config "registry resolver must be built inside a tokio runtime")

def resolveNow (r : Resolver) (registry : Registry) (sink : Sink ω) (w : ω) : ω :=
  if r.isClosed then w else r.push registry sink w

def close (r : Resolver) : Resolver := { r with isClosed := true }

/-- Ends the background work and the subscription. -/
def finish (r : Resolver) (registry : Registry) : Resolver × Registry :=
  ({ r with isRunning := false }, (registry.stop r.watcher).dropReceiver r.watcher)

/-- A turn of the background work: it ends if the resolver is closed or nothing will come any more,
and otherwise takes all changes that wait and hands the members on if there were any. -/
def turn (r : Resolver) (registry : Registry) (sink : Sink ω) (w : ω) : Resolver × Registry × ω :=
  if !r.isRunning then (r, registry, w)
  else if r.isClosed then
    let (r, registry) := r.finish registry
    (r, registry, w)
  else match registry.receive r.watcher none with
    | none => (r, registry, w)
    | some (receipt, next) =>
      if !receipt.changes.isEmpty then (r, next, r.push next sink w)
      else if receipt.status = .isClosed then
        let (r, next) := r.finish next
        (r, next, w)
      else (r, next, w)

/-- Lets the background work go on until it waits or is over, which takes no more than two turns.
-/
def settle (r : Resolver) (registry : Registry) (sink : Sink ω) (w : ω) : Resolver × Registry × ω :=
  let (r, registry, w) := r.turn registry sink w
  r.turn registry sink w

end Resolver

end Roster
