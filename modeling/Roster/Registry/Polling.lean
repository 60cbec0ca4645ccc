import Roster.Error
import Roster.Registry.Catalog
import Roster.Registry.State

/-!
# Registries that poll a catalog

Each service with a subscription has a poller: a task that queries the catalog at once and then
once every period, and commits what it gets. The poller starts with the first subscription, is
cancelled when the last one is stopped, and ends by itself when a query is over and no subscription
is left. A query that fails changes nothing. A service is asked about under its alias, if it has
one.

Time passes only while no task can run. A task runs from one wait to the next in steps. When a task
is cancelled and what it waits for has come too, it may go either way; a step is told which, and
goes on unless it is told to end.

The ticks of a poller are one period apart. A tick that is served more than `tickTolerance` late
puts the next one a period after the moment at which it was served.
-/

namespace Roster

/-- How many milliseconds late a tick may be served without a shift of later ones. -/
def tickTolerance : Nat := 5

/-- The time of the tick after one that was due at `due` and is served at `now`. -/
def nextTick (period due now : Nat) : Nat :=
  if due + tickTolerance < now then now + period else due + period

/-- Where a task stands. -/
inductive TaskPhase where
  | fresh
  | waiting (due : Nat)
  /-- Its query ends at `finish` with `result`; its next tick is at `next`, if it has ticks. -/
  | querying (next : Option Nat) (finish : Nat) (result : Except String (List CatalogEntry))
  | ended
  /-- It broke down, because ticks cannot be zero apart. -/
  | failed

/-- A task: the poller of a service, or a refresh that someone asked for. -/
structure PollingTask where
  service : String
  phase : TaskPhase
  isCancelled : Bool := false
  /-- When it started to wait, among all waits. -/
  rank : Nat

/-- A query: which task made it, about which name, and when. -/
structure QueryRecord where
  task : Nat
  name : String
  time : Nat
  deriving DecidableEq, Repr

/-- Which way a step goes when a task is cancelled and could go on as well. -/
structure StepChoice where
  /-- Whether it ends at its wait. -/
  endsAtWait : Bool := false
  /-- Whether, having gone on, it ends before it makes a query. -/
  endsBeforeQuery : Bool := false

structure PollingOptions where
  /-- The time between two queries, in milliseconds. -/
  period : Nat := 30000
  aliases : Table String := Table.empty
  watchBuffer : Nat := 64

/-- A registry that polls a catalog. -/
structure PollingRegistry where
  options : PollingOptions
  catalog : Catalog
  state : State
  /-- The task that polls for each service, by its place in `tasks`. -/
  pollers : Table Nat := Table.empty
  tasks : List PollingTask := []
  queries : List QueryRecord := []
  /-- The time in milliseconds. -/
  now : Nat := 0
  waits : Nat := 0
  /-- Whether the registry was given up. -/
  isDropped : Bool := false

namespace PollingTask

/-- The time at which a task can run. -/
def wake? (t : PollingTask) (now : Nat) : Option Nat :=
  match t.phase with
  | .fresh => some 0
  | .waiting due => some (if t.isCancelled then min due now else due)
  | .querying _ finish _ => some (if t.isCancelled then min finish now else finish)
  | .ended => none
  | .failed => none

def isReady (t : PollingTask) (now : Nat) : Bool := (t.wake? now).any (· ≤ now)

def isOver (t : PollingTask) : Bool :=
  match t.phase with
  | .ended => true
  | .failed => true
  | _ => false

end PollingTask

namespace PollingRegistry

def create (catalog : Catalog) (options : PollingOptions) (inRuntime : Bool) :
    Except RoutingError PollingRegistry :=
  if inRuntime then .ok { options, catalog, state := State.new options.watchBuffer }
  else .error (.config "polling registry must be created inside a tokio runtime")

/-- The name under which the catalog is asked about a service. -/
def backendName (r : PollingRegistry) (service : String) : String :=
  (r.options.aliases.get? service).getD service

def activePollers (r : PollingRegistry) : Nat := r.pollers.size

/-! ## Steps of tasks -/

def setTask (r : PollingRegistry) (i : Nat) (t : PollingTask) : PollingRegistry :=
  { r with tasks := r.tasks.set i t }

def finishTask (r : PollingRegistry) (i : Nat) (t : PollingTask) : PollingRegistry :=
  r.setTask i { t with phase := .ended }

def suspend (r : PollingRegistry) (i : Nat) (t : PollingTask) (phase : TaskPhase) :
    PollingRegistry :=
  { r.setTask i { t with phase, rank := r.waits } with waits := r.waits + 1 }

/-- Commits the entries of a query about a service. An error changes nothing. -/
def adopt (r : PollingRegistry) (service : String) (result : Except String (List CatalogEntry)) :
    PollingRegistry :=
  let r := { r with catalog := r.catalog.note (r.backendName service) result }
  match result with
  | .ok entries => { r with state := (r.state.commitAddresses service (entries.map (·.address))).2 }
  | .error _ => r

/-- Takes a task off the map of pollers if it stands there. -/
def release (r : PollingRegistry) (i : Nat) (service : String) : PollingRegistry :=
  if r.pollers.get? service = some i then { r with pollers := r.pollers.erase service } else r

/-- What a task does when its query is over: a poller goes on if the service still has
subscriptions. -/
def completeQuery (r : PollingRegistry) (i : Nat) (t : PollingTask) (next : Option Nat)
    (result : Except String (List CatalogEntry)) : PollingRegistry :=
  let r := r.adopt t.service result
  match next with
  | none => r.finishTask i t
  | some due =>
    if r.state.watcherCount t.service = 0 then (r.release i t.service).finishTask i t
    else r.suspend i t (.waiting due)

/-- Starts a task's query. One that takes no time is over at once; a cancelled task abandons any
other. -/
def startQuery (r : PollingRegistry) (i : Nat) (t : PollingTask) (next : Option Nat) :
    PollingRegistry :=
  let name := r.backendName t.service
  let (answer, catalog) := r.catalog.ask name
  let r := { r with catalog, queries := r.queries ++ [QueryRecord.mk i name r.now] }
  if answer.delay = 0 then r.completeQuery i t next answer.result
  else if t.isCancelled then r.finishTask i t
  else r.suspend i t (.querying next (r.now + answer.delay) answer.result)

def tick (r : PollingRegistry) (i : Nat) (t : PollingTask) (due : Nat) (choice : StepChoice) :
    PollingRegistry :=
  if t.isCancelled && (choice.endsAtWait || r.now < due) then r.finishTask i t
  else if r.now < due then r
  else if t.isCancelled && choice.endsBeforeQuery then r.finishTask i t
  else r.startQuery i t (some (nextTick r.options.period due r.now))

/-- A step of a task. A task that can only wait does nothing. -/
def step (r : PollingRegistry) (i : Nat) (choice : StepChoice) : PollingRegistry :=
  match r.tasks[i]? with
  | none => r
  | some t =>
    match t.phase with
    | .fresh =>
      if r.options.period = 0 then r.setTask i { t with phase := .failed }
      else r.tick i t r.now choice
    | .waiting due => r.tick i t due choice
    | .querying next finish result =>
      if t.isCancelled && (choice.endsAtWait || r.now < finish) then r.finishTask i t
      else if r.now < finish then r
      else r.completeQuery i t next result
    | .ended => r
    | .failed => r

/-! ## The passing of time -/

/-- The task that runs first: of those that can run, the one that could run earliest, and of
several the one that has waited longest. -/
def first? (r : PollingRegistry) : Option Nat :=
  let ready := r.tasks.zipIdx.filterMap fun (t, i) =>
    if t.isReady r.now then (t.wake? r.now).map fun w => (w, t.rank, i) else none
  (ready.foldl better none).map (·.2.2)
where
  better (best : Option (Nat × Nat × Nat)) (c : Nat × Nat × Nat) : Option (Nat × Nat × Nat) :=
    match best with
    | none => some c
    | some b => if c.1 < b.1 ∨ (c.1 = b.1 ∧ c.2.1 < b.2.1) then some c else some b

def runTask (i : Nat) : Nat → PollingRegistry → PollingRegistry
  | 0, r => r
  | fuel + 1, r =>
    if r.tasks[i]?.any (·.isReady r.now) then runTask i fuel (r.step i {}) else r

/-- Lets every task run until it waits, for at most `fuel` turns. -/
def settleWithin : Nat → PollingRegistry → PollingRegistry
  | 0, r => r
  | fuel + 1, r =>
    match r.first? with
    | some i => settleWithin fuel (runTask i (tickTolerance + 4) r)
    | none => r

/-- A registry that was given up lives on in its tasks; with the last of them its subscriptions
end. -/
def reclaim (r : PollingRegistry) : PollingRegistry :=
  if r.isDropped && r.tasks.all (·.isOver) then { r with state := r.state.release } else r

def settle (r : PollingRegistry) : PollingRegistry :=
  (settleWithin (2 * r.tasks.length + 1) r).reclaim

def nextWake? (r : PollingRegistry) : Option Nat :=
  (r.tasks.filterMap (·.wake? r.now)).min?

/-- Lets time pass up to `target`, for at most `fuel` waits. -/
def passUntil (target : Nat) : Nat → PollingRegistry → PollingRegistry
  | 0, r => r
  | fuel + 1, r =>
    let r := r.settle
    match r.nextWake? with
    | some w =>
      if w ≤ target then passUntil target fuel { r with now := max r.now w }
      else { r with now := max r.now target }
    | none => { r with now := max r.now target }

def advance (r : PollingRegistry) (ms : Nat) : PollingRegistry :=
  passUntil (r.now + ms) (ms + 2) r

/-- Lets time pass until `n` changes wait for a subscription, for at most `fuel` waits. -/
def passUntilEvents (id n : Nat) : Nat → PollingRegistry → PollingRegistry
  | 0, r => r
  | fuel + 1, r =>
    if (r.state.subscription? id).any (n ≤ ·.queue.length) then r
    else
      let r := r.settle
      if (r.state.subscription? id).any (n ≤ ·.queue.length) then r
      else match r.nextWake? with
        | some w => passUntilEvents id n fuel { r with now := max r.now w }
        | none => r

/-! ## Operations -/

def spawn (r : PollingRegistry) (service : String) : PollingRegistry :=
  { r with
    pollers := r.pollers.set service r.tasks.length
    tasks := r.tasks ++ [{ service, phase := .fresh, rank := r.waits }]
    waits := r.waits + 1 }

/-- Makes sure that a service has a poller. -/
def ensurePoller (r : PollingRegistry) (service : String) : PollingRegistry :=
  if (r.pollers.get? service).isSome then r else r.spawn service

def subscribe (r : PollingRegistry) (id : Nat) (service : String) : PollingRegistry :=
  { r with state := r.state.subscribe id service }.ensurePoller service

def cancel (r : PollingRegistry) (i : Nat) : PollingRegistry :=
  match r.tasks[i]? with
  | some t => r.setTask i { t with isCancelled := true }
  | none => r

/-- Stops a subscription through its handle. With the last one the service's poller is cancelled.
-/
def stop (r : PollingRegistry) (id : Nat) : PollingRegistry :=
  match r.state.subscription? id with
  | none => r
  | some sub =>
    let (left, state) := r.state.stop id
    let r := { r with state }
    match left, r.pollers.get? sub.service with
    | some 0, some i => { r with pollers := r.pollers.erase sub.service }.cancel i
    | _, _ => r

def beginRefresh (r : PollingRegistry) (service : String) : PollingRegistry :=
  let t : PollingTask := { service, phase := .fresh, rank := r.waits }
  let i := r.tasks.length
  startQuery { r with tasks := r.tasks ++ [t], waits := r.waits + 1 } i t none

/-- Refreshes a service, and lets the time pass that this takes. -/
def refresh (r : PollingRegistry) (service : String) : PollingRegistry :=
  let i := r.tasks.length
  let r := r.beginRefresh service
  match (r.tasks[i]?).map PollingTask.phase with
  | some (TaskPhase.querying _ finish _) => r.advance (finish - r.now)
  | _ => r

/-- Gives the registry up: every poller is cancelled. -/
def dropRegistry (r : PollingRegistry) : PollingRegistry :=
  let r := r.pollers.entries.foldl (fun r e => r.cancel e.2) r
  { r with pollers := Table.empty, isDropped := true }.reclaim

end PollingRegistry

end Roster
