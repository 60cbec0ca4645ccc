import Roster.Balancer
import Roster.Difference

/-!
# Connections

The connections of a channel. A list of members is brought in as a whole: connections to addresses
that are not listed go, and each listed address without a connection is connected to, in the list's
order. A connection may be marked as not ready for a while. Whenever the set of ready addresses
changes, the balancer builds a new picker. A closed channel stays empty.
-/

namespace Roster

/-- What connects to members. It may go by what happened before, which `σ` records. -/
abbrev Connector (σ C : Type) := σ → Instance → Except RoutingError C × σ

structure Connections (C : Type) where
  held : Table C := Table.empty
  unready : List String := []
  /-- Whether a picker was built for a list of members. -/
  isBuilt : Bool := false
  isClosed : Bool := false
  balancer : Balancer C

namespace Connections

variable {σ C : Type}

def new (options : ShardOptions) : Connections C := { balancer := Balancer.new options }

def ready (c : Connections C) : Table C :=
  c.held.filter fun a => !c.unready.contains a

def readyAddresses (c : Connections C) : List String :=
  c.ready.keys.mergeSort (· ≤ ·)

def rebuild (c : Connections C) : Connections C :=
  { c with isBuilt := true, balancer := c.balancer.update c.ready }

def markReady (c : Connections C) (address : String) : Connections C :=
  if c.unready.contains address then
    { c with unready := c.unready.filter (· != address) }.rebuild
  else c

/-- Marks the connection of an address, if there is one, as not ready. -/
def markUnready (c : Connections C) (address : String) : Connections C :=
  if (c.held.get? address).isSome && !c.unready.contains address then
    { c with unready := address :: c.unready }.rebuild
  else c

/-- Closes the channel. Only the first time counts. -/
def close (c : Connections C) : Connections C :=
  if c.isClosed then c
  else
    { c with
      held := Table.empty
      unready := []
      isClosed := true
      balancer := c.balancer.update Table.empty }

/-! ## Lists of members -/

/-- Keeps the connections to the addresses that are listed. -/
def retain (c : Connections C) (members : List Instance) : Connections C :=
  let held := c.held.filter (hasAddress members)
  { c with held, unready := c.unready.filter fun a => (held.get? a).isSome }

/-- Connects in turn to each member whose address has no connection. Those that refuse are left
out. -/
def connectAll (connect : Connector σ C) : Table C → σ → List Instance → Table C × σ
  | held, w, [] => (held, w)
  | held, w, m :: rest =>
    if (held.get? m.address).isSome then connectAll connect held w rest
    else
      match connect w m with
      | (.ok c, w) => connectAll connect (held.set m.address c) w rest
      | (.error _, w) => connectAll connect held w rest

/-- The connections after a list of members was brought in, whether or not a new picker is due. -/
def bringIn (c : Connections C) (connect : Connector σ C) (w : σ) (members : List Instance) :
    Connections C × σ :=
  let c := c.retain members
  let (held, w) := connectAll connect c.held w members
  ({ c with held }, w)

/-- Brings in a list of members. A closed channel refuses. -/
def update (c : Connections C) (connect : Connector σ C) (w : σ) (members : List Instance) :
    Except RoutingError (Connections C × σ) :=
  if c.isClosed then .error .sinkClosed
  else
    let (next, w) := c.bringIn connect w members
    if !c.isBuilt || c.readyAddresses != next.readyAddresses then .ok (next.rebuild, w)
    else .ok (next, w)

def candidates (c : Connections C) (call : Call) : Except RoutingError (List C) :=
  c.balancer.candidates call

def pick (c : Connections C) (draw : Nat) (call : Call) : Except RoutingError C :=
  c.balancer.pick draw call

end Connections

end Roster
