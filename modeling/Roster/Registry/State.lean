import Roster.Difference
import Roster.Table

/-!
# Snapshots and subscriptions

The state of a registry: the members of each service, and the subscriptions to changes of them. A
commit replaces the members of one service and offers the changes that lead there to the service's
subscriptions; a subscription starts with the arrival of every present member. Each subscription
has a queue of bounded length. What is offered while the queue is full is dropped, and neither the
committed members nor the other subscriptions take notice.

Subscriptions are told apart by numbers, which whoever subscribes picks and never picks twice.
-/

namespace Roster

/-- A subscription to the changes of a service. -/
structure Subscription where
  id : Nat
  service : String
  capacity : Nat
  queue : List Change
  /-- Whether the receiver is still there. -/
  isHeard : Bool := true
  /-- Whether changes are still offered. -/
  isListed : Bool := true
  isStopped : Bool := false
  deriving DecidableEq, Repr

namespace Subscription

/-- Puts a change into the queue unless the queue is full. -/
def offer (s : Subscription) (c : Change) : Subscription :=
  if s.queue.length < s.capacity then { s with queue := s.queue ++ [c] } else s

/-- Offers the changes of a service in turn. A subscription whose receiver is gone leaves the list
at the first one. -/
def notify (service : String) (changes : List Change) (s : Subscription) : Subscription :=
  if s.isListed && s.service == service then
    if s.isHeard then changes.foldl offer s
    else { s with isListed := s.isListed && changes.isEmpty }
  else s

def isTo (service : String) (s : Subscription) : Bool :=
  s.isListed && s.service == service

end Subscription

inductive QueueStatus where
  | isOpen
  | isClosed
  /-- As many changes were taken as asked for; whether more wait was not looked at. -/
  | more
  deriving DecidableEq, Repr

structure Receipt where
  changes : List Change
  status : QueueStatus
  deriving DecidableEq, Repr

/-- The members of services and the subscriptions to them. -/
structure State where
  /-- The least capacity of a queue. -/
  buffer : Nat
  snapshots : Table (List Instance)
  /-- The subscriptions in the order in which they were made. -/
  subscriptions : List Subscription
  deriving DecidableEq

namespace State

/-- The state without members and subscriptions. A buffer of zero counts as one. -/
def new (buffer : Nat) : State := ⟨max buffer 1, Table.empty, []⟩

def instances (s : State) (service : String) : List Instance :=
  (s.snapshots.get? service).getD []

def services (s : State) : List String :=
  s.snapshots.keys.mergeSort (· ≤ ·)

/-- The number of subscriptions to which changes of a service are offered. -/
def watcherCount (s : State) (service : String) : Nat :=
  s.subscriptions.countP (·.isTo service)

def subscription? (s : State) (id : Nat) : Option Subscription :=
  s.subscriptions.find? (·.id == id)

def alter (s : State) (id : Nat) (f : Subscription → Subscription) : State :=
  { s with subscriptions := s.subscriptions.map fun sub => if sub.id = id then f sub else sub }

/-! ## Commits -/

/-- Makes the first instance of each address the members of a service, and returns the changes. -/
def commit (s : State) (service : String) (is : List Instance) : List Change × State :=
  let members := distinct is
  let changes := difference (s.instances service) members
  (changes,
    { s with
      snapshots :=
        if members.isEmpty then s.snapshots.erase service else s.snapshots.set service members
      subscriptions := s.subscriptions.map (Subscription.notify service changes) })

def commitAddresses (s : State) (service : String) (addresses : List String) :
    List Change × State :=
  s.commit service (addresses.map fun a => ⟨service, a⟩)

/-! ## Subscriptions -/

/-- The capacity of the queue that a subscription made now has: enough for every present member. -/
def capacityFor (s : State) (service : String) : Nat :=
  max s.buffer (s.instances service).length

/-- Subscribes to a service under a new number. The arrival of every present member waits. -/
def subscribe (s : State) (id : Nat) (service : String) : State :=
  let sub : Subscription :=
    { id
      service
      capacity := s.capacityFor service
      queue := (s.instances service).map Change.joined }
  { s with subscriptions := s.subscriptions ++ [sub] }

/-- Ends the subscription of a number to a service, and returns how many the service has left.
Nothing happens if there is none. -/
def unsubscribe (s : State) (service : String) (id : Nat) : Option Nat × State :=
  if s.subscriptions.any fun sub => sub.isTo service && sub.id == id then
    let next := s.alter id fun sub =>
      { sub with isListed := sub.isListed && sub.service != service }
    (some (next.watcherCount service), next)
  else (none, s)

/-- Whether the handle of a subscription was used to stop it. -/
def isStopped (s : State) (id : Nat) : Bool :=
  (s.subscription? id).any (·.isStopped)

/-- Stops a subscription through its handle. Only the first time counts. Returns how many
subscriptions the service has left, if one ended. -/
def stop (s : State) (id : Nat) : Option Nat × State :=
  match s.subscription? id with
  | none => (none, s)
  | some sub =>
    if sub.isStopped then (none, s)
    else (s.alter id fun sub => { sub with isStopped := true }).unsubscribe sub.service id

/-- Drops the receiver of a subscription, and what waits for it. -/
def dropReceiver (s : State) (id : Nat) : State :=
  s.alter id fun sub => { sub with isHeard := false, queue := [] }

/-- Takes what waits for a receiver, at most `limit` changes if there is a limit. -/
def receive (s : State) (id : Nat) (limit : Option Nat) : Option (Receipt × State) :=
  (s.subscription? id).map fun sub =>
    let n := limit.getD sub.queue.length
    let taken := sub.queue.take n
    let status :=
      if limit = some taken.length then QueueStatus.more
      else if sub.isListed then .isOpen else .isClosed
    (⟨taken, status⟩, s.alter id fun sub => { sub with queue := sub.queue.drop n })

def release (s : State) : State :=
  { s with subscriptions := s.subscriptions.map fun sub => { sub with isListed := false } }

/-! ## Queues that cannot be made -/

/-- The greatest capacity that a queue can have. -/
def maxCapacity : Nat := 0x1fffffffffffffff

end State

def describeHandle (isStopped : Bool) : String :=
  "WatchStop \x7b stopped: " ++ (if isStopped then "true" else "false") ++ " \x7d"

end Roster
