import Roster.Proofs.Registry.Polling

/-!
# One poller for each watched service

A poller ends in three ways: it is cancelled with the last stop, it finds no watchers after a query,
or, having been cancelled, it notices so late that its service has another poller by then. The
invariant `Tended` says that the map of pollers lists exactly the pollers that are neither over nor
cancelled, and that every watched service is in it. The count of watchers and the map may disagree
for a while, but only in that a service without watchers still has a poller.

Every action keeps the invariant (`Tended.perform`). A task that ends is either not listed, because
it was cancelled or is no poller (`Tended.setTask`), or its service has no watchers, and it leaves
the map (`Tended.retire`).
-/

namespace Roster

namespace PollingTask

/-- Whether a task is a poller that is not over. A query without a next tick is a refresh. -/
def isPolling (t : PollingTask) : Bool :=
  match t.phase with
  | .fresh => true
  | .waiting _ => true
  | .querying next _ _ => next.isSome
  | .ended => false
  | .failed => false

/-- Whether a task is a poller that is neither over nor cancelled. -/
def isActive (t : PollingTask) : Bool := t.isPolling && !t.isCancelled

theorem isActive_of_isCancelled {t : PollingTask} (h : t.isCancelled = true) :
    t.isActive = false := by
  rw [isActive, h, Bool.not_true, Bool.and_false]

theorem isActive_of_isOver {t : PollingTask} (h : t.isOver = true) : t.isActive = false := by
  unfold isOver at h
  unfold isActive isPolling
  split at h <;> simp_all

end PollingTask

namespace PollingRegistry

/-! ## Active pollers -/

def ActiveAt (tasks : List PollingTask) (service : String) (i : Nat) : Prop :=
  ∃ t, tasks[i]? = some t ∧ t.service = service ∧ t.isActive = true

section ActiveAt

variable {tasks : List PollingTask} {service : String} {i j : Nat} {t t' : PollingTask}

theorem ActiveAt.lt_length (h : ActiveAt tasks service i) : i < tasks.length := by
  obtain ⟨t, ht, _⟩ := h
  exact (List.getElem?_eq_some_iff.mp ht).1

theorem activeAt_iff (ht : tasks[i]? = some t) :
    ActiveAt tasks service i ↔ t.service = service ∧ t.isActive = true := by
  unfold ActiveAt
  rw [ht]
  constructor
  · rintro ⟨u, hu, hactive⟩
    cases hu
    exact hactive
  · exact fun hactive => ⟨t, rfl, hactive⟩

theorem activeAt_set_self (ht : tasks[i]? = some t) :
    ActiveAt (tasks.set i t') service i ↔ t'.service = service ∧ t'.isActive = true :=
  activeAt_iff (List.getElem?_set_self (List.getElem?_eq_some_iff.mp ht).1)

theorem activeAt_set_of_ne (h : i ≠ j) :
    ActiveAt (tasks.set i t') service j ↔ ActiveAt tasks service j := by
  unfold ActiveAt
  rw [List.getElem?_set_ne h]

theorem activeAt_append :
    ActiveAt (tasks ++ [t]) service j ↔
      ActiveAt tasks service j ∨ j = tasks.length ∧ t.service = service ∧ t.isActive = true := by
  by_cases hlast : j = tasks.length
  · subst hlast
    have hout : ¬ ActiveAt tasks service tasks.length := fun h => Nat.lt_irrefl _ h.lt_length
    rw [activeAt_iff (List.getElem?_concat_length)]
    simp [hout]
  · have hinner : (tasks ++ [t])[j]? = tasks[j]? := by
      rw [List.getElem?_append]
      split
      · rfl
      · rw [List.getElem?_eq_none (by simp; omega), List.getElem?_eq_none (by omega)]
    unfold ActiveAt
    rw [hinner]
    simp [hlast]

end ActiveAt

/-- The map of pollers lists exactly the active ones, and every watched service has one. -/
structure Tended (r : PollingRegistry) : Prop where
  period_pos : 0 < r.options.period
  watched : ∀ service, 0 < r.state.watcherCount service →
    (r.pollers.get? service).isSome = true
  entry_iff : ∀ service i, r.pollers.get? service = some i ↔ ActiveAt r.tasks service i

variable {r : PollingRegistry} {i : Nat} {t t' : PollingTask}

/-! ## Parts of a step -/

/-- Nothing else about a registry matters than its period, its map, its tasks and whom it counts. -/
theorem Tended.congr (h : r.Tended) {r' : PollingRegistry} (hoptions : r'.options = r.options)
    (hpollers : r'.pollers = r.pollers) (htasks : r'.tasks = r.tasks)
    (hcount : ∀ service, r'.state.watcherCount service ≤ r.state.watcherCount service) :
    r'.Tended where
  period_pos := by
    rw [hoptions]
    exact h.period_pos
  watched service hwatched := by
    rw [hpollers]
    exact h.watched service (Nat.lt_of_lt_of_le hwatched (hcount service))
  entry_iff service i := by
    rw [hpollers, htasks]
    exact h.entry_iff service i

theorem Tended.withState (h : r.Tended) {state : State}
    (hcount : ∀ service, state.watcherCount service ≤ r.state.watcherCount service) :
    ({ r with state } : PollingRegistry).Tended :=
  h.congr rfl rfl rfl hcount

/-- A task may change as long as it stays as active as it was. -/
theorem Tended.setTask (h : r.Tended) (ht : r.tasks[i]? = some t)
    (hservice : t'.service = t.service) (hactive : t'.isActive = t.isActive) :
    (r.setTask i t').Tended where
  period_pos := h.period_pos
  watched := h.watched
  entry_iff service j := by
    refine (h.entry_iff service j).trans ?_
    show _ ↔ ActiveAt (r.tasks.set i t') service j
    by_cases hij : i = j
    · subst hij
      rw [activeAt_set_self ht, activeAt_iff ht, hservice, hactive]
    · rw [activeAt_set_of_ne hij]

theorem Tended.retire (h : r.Tended) (ht : r.tasks[i]? = some t)
    (hidle : r.state.watcherCount t.service = 0) (hentry : r.pollers.get? t.service = some i)
    (hactive : t'.isActive = false) :
    (({ r with pollers := r.pollers.erase t.service } : PollingRegistry).setTask i t').Tended where
  period_pos := h.period_pos
  watched service hwatched := by
    replace hwatched : 0 < r.state.watcherCount service := hwatched
    have hne : t.service ≠ service := by
      rintro rfl
      omega
    show ((r.pollers.erase t.service).get? service).isSome = true
    rw [Table.get?_erase, if_neg hne]
    exact h.watched service hwatched
  entry_iff service j := by
    show (r.pollers.erase t.service).get? service = some j ↔ ActiveAt (r.tasks.set i t') service j
    have hold := h.entry_iff service j
    rw [Table.get?_erase]
    by_cases hij : i = j
    · subst hij
      rw [activeAt_set_self ht, hactive]
      rw [activeAt_iff ht] at hold
      split
      · simp
      · next hne => simp [hold, hne]
    · rw [activeAt_set_of_ne hij, ← hold]
      split
      · next heq =>
        subst heq
        simp [hentry, hij]
      · rfl

theorem Tended.push (h : r.Tended) (hactive : t.isActive = false) :
    ({ r with tasks := r.tasks ++ [t] } : PollingRegistry).Tended where
  period_pos := h.period_pos
  watched := h.watched
  entry_iff service j := by
    refine (h.entry_iff service j).trans ?_
    rw [activeAt_append, hactive]
    simp

theorem Tended.finishTask (h : r.Tended) (ht : r.tasks[i]? = some t)
    (hactive : t.isActive = false) : (r.finishTask i t).Tended :=
  h.setTask ht rfl hactive.symm

theorem Tended.suspend (h : r.Tended) (ht : r.tasks[i]? = some t) {phase : TaskPhase}
    (hpolling : ({ t with phase } : PollingTask).isPolling = t.isPolling) :
    (r.suspend i t phase).Tended := by
  have hactive : ({ t with phase, rank := r.waits } : PollingTask).isActive = t.isActive :=
    congrArg (· && !t.isCancelled) hpolling
  have hset : (r.setTask i { t with phase, rank := r.waits }).Tended :=
    h.setTask ht rfl hactive
  exact hset.congr rfl rfl rfl fun _ => Nat.le_refl _

/-- A poller whose service has no watchers may end. Whether it is listed or not, the map is right
afterwards. -/
theorem Tended.finish_release (h : r.Tended) (ht : r.tasks[i]? = some t)
    (hidle : r.state.watcherCount t.service = 0) :
    ((r.release i t.service).finishTask i t).Tended := by
  unfold release
  split
  · next hentry => exact h.retire ht hidle hentry rfl
  · next hentry =>
    -- A poller that its service does not list has been cancelled.
    refine h.finishTask ht (Bool.eq_false_iff.mpr fun hactive => hentry ?_)
    exact (h.entry_iff t.service i).mpr ((activeAt_iff ht).mpr ⟨rfl, hactive⟩)

/-! ## Queries -/

variable {next : Option Nat} {result : Except String (List CatalogEntry)}

theorem Tended.completeQuery (h : r.Tended) (ht : r.tasks[i]? = some t)
    (hnext : next.isSome = t.isPolling) : (r.completeQuery i t next result).Tended := by
  obtain ⟨catalog, state, hadopt, hcount⟩ := adopt_eq r result t.service
  have hadopted : (r.adopt t.service result).Tended := by
    rw [hadopt]
    exact h.congr rfl rfl rfl hcount
  have htask : (r.adopt t.service result).tasks[i]? = some t := by
    rw [hadopt]
    exact ht
  rcases completeQuery_cases r i t next result with
    ⟨rfl, hover⟩ | ⟨due, rfl, ⟨hidle, hover⟩ | hgoes⟩
  · rw [hover]
    refine hadopted.finishTask htask ?_
    rw [PollingTask.isActive, ← hnext]
    rfl
  · rw [hover]
    exact hadopted.finish_release htask hidle
  · rw [hgoes]
    exact hadopted.suspend htask hnext

theorem Tended.asked (h : r.Tended) (i : Nat) (t : PollingTask) : (r.asked i t).Tended :=
  h.congr rfl rfl rfl fun _ => Nat.le_refl _

theorem Tended.startQuery (h : r.Tended) (ht : r.tasks[i]? = some t)
    (hpolling : t.isPolling = true) (due : Nat) : (r.startQuery i t (some due)).Tended := by
  rcases startQuery_cases r i t (some due) with hover | ⟨hcancelled, hends⟩ | hgoes
  · rw [hover]
    exact (h.asked i t).completeQuery ht hpolling.symm
  · rw [hends]
    exact (h.asked i t).finishTask ht (PollingTask.isActive_of_isCancelled hcancelled)
  · rw [hgoes]
    exact (h.asked i t).suspend ht hpolling.symm

theorem Tended.step (h : r.Tended) (i : Nat) (choice : StepChoice) : (r.step i choice).Tended := by
  cases ht : r.tasks[i]? with
  | none =>
    rw [step_of_none ht]
    exact h
  | some t =>
    rcases step_cases h.period_pos ht choice with
      hstay | ⟨hcancelled, hends⟩ | ⟨due, _, hphase, hstarts⟩ |
        ⟨next, finish, result, hphase, _, hover⟩
    · rw [hstay]
      exact h
    · rw [hends]
      exact h.finishTask ht (PollingTask.isActive_of_isCancelled hcancelled)
    · have hpolling : t.isPolling = true := by
        unfold PollingTask.isPolling
        rcases hphase with ⟨hfresh, _⟩ | hwaiting
        · rw [hfresh]
        · rw [hwaiting]
      rw [hstarts]
      exact h.startQuery ht hpolling _
    · have hpolling : next.isSome = t.isPolling := by
        unfold PollingTask.isPolling
        rw [hphase]
      rw [hover]
      exact h.completeQuery ht hpolling

/-! ## What users do -/

theorem Tended.spawn (h : r.Tended) {service : String} (hfree : r.pollers.get? service = none) :
    (r.spawn service).Tended where
  period_pos := h.period_pos
  watched service' hwatched := by
    show ((r.pollers.set service r.tasks.length).get? service').isSome = true
    rw [Table.get?_set]
    split
    · rfl
    · exact h.watched service' hwatched
  entry_iff service' j := by
    show (r.pollers.set service r.tasks.length).get? service' = some j ↔
      ActiveAt (r.tasks ++ [_]) service' j
    rw [Table.get?_set, activeAt_append, ← h.entry_iff]
    split
    · next heq =>
      subst heq
      simp [hfree, PollingTask.isActive, PollingTask.isPolling, eq_comm]
    · next hne => simp [hne]

theorem Tended.ensurePoller (h : r.Tended) (service : String) :
    (r.ensurePoller service).Tended ∧
      ((r.ensurePoller service).pollers.get? service).isSome = true := by
  unfold PollingRegistry.ensurePoller
  split
  · next hentry => exact ⟨h, hentry⟩
  · next hfree =>
    rw [Bool.not_eq_true, Option.isSome_eq_false_iff, Option.isNone_iff_eq_none] at hfree
    exact ⟨h.spawn hfree, by rw [PollingRegistry.spawn, Table.get?_set_self]; rfl⟩

theorem Tended.subscribe (h : r.Tended) (id : Nat) (service : String) :
    (r.subscribe id service).Tended := by
  obtain ⟨hensured, hentry⟩ := h.ensurePoller service
  have heq : r.subscribe id service =
      { r.ensurePoller service with state := r.state.subscribe id service } := by
    unfold PollingRegistry.subscribe PollingRegistry.ensurePoller
    dsimp only
    split <;> rfl
  have hstate : (r.ensurePoller service).state = r.state := by
    unfold PollingRegistry.ensurePoller
    split <;> rfl
  rw [heq]
  refine ⟨hensured.period_pos, fun service' hwatched => ?_, hensured.entry_iff⟩
  show ((r.ensurePoller service).pollers.get? service').isSome = true
  rw [State.watcherCount_subscribe] at hwatched
  by_cases hservice : service = service'
  · exact hservice ▸ hentry
  · rw [if_neg hservice, Nat.add_zero, ← hstate] at hwatched
    exact hensured.watched service' hwatched

theorem Tended.stop (h : r.Tended) (id : Nat) : (r.stop id).Tended := by
  have hstate := h.withState fun service => r.state.watcherCount_stop_le id service
  rcases stop_cases r id with hstays | ⟨service, i, hidle, hentry, hcancels⟩
  · rw [hstays]
    exact hstate
  · obtain ⟨t, ht, rfl, _⟩ := (h.entry_iff service i).mp hentry
    rw [hcancels, PollingRegistry.cancel]
    dsimp only
    rw [ht]
    exact hstate.retire ht hidle hentry (PollingTask.isActive_of_isCancelled rfl)

/-- Until its query starts, the task of a refresh looks like a poller, but by the end of the same
step it is over or waits for the query. -/
theorem Tended.beginRefresh (h : r.Tended) (service : String) :
    (r.beginRefresh service).Tended := by
  let t : PollingTask := { service, phase := .fresh, rank := r.waits }
  let started : PollingRegistry := { r with tasks := r.tasks ++ [t], waits := r.waits + 1 }
  have hset (t' : PollingTask) : (r.tasks ++ [t]).set r.tasks.length t' = r.tasks ++ [t'] := by
    rw [List.set_append_right _ _ (Nat.le_refl _), Nat.sub_self]
    rfl
  show (started.startQuery r.tasks.length t none).Tended
  let answer := (started.catalog.ask (started.backendName t.service)).1
  rcases startQuery_cases started r.tasks.length t none with hover | ⟨hcancelled, _⟩ | hgoes
  · obtain ⟨catalog, state, hadopt, hcount⟩ :=
      adopt_eq (started.asked r.tasks.length t) answer.result t.service
    rcases completeQuery_cases (started.asked r.tasks.length t) r.tasks.length t none
      answer.result with ⟨_, hends⟩ | ⟨due, hdue, _⟩
    · rw [hover, hends, hadopt]
      exact (h.push rfl).congr rfl rfl (hset { t with phase := .ended }) hcount
    · cases hdue
  · cases hcancelled
  · rw [hgoes]
    exact (h.push rfl).congr rfl rfl (hset { t with phase := .querying none _ _, rank := _ })
      fun _ => Nat.le_refl _

/-! ## The passing of time -/

theorem Tended.runTask (i fuel : Nat) (h : r.Tended) : (runTask i fuel r).Tended := by
  induction fuel generalizing r with
  | zero => exact h
  | succ fuel ih =>
    unfold PollingRegistry.runTask
    split
    · exact ih (h.step i {})
    · exact h

theorem Tended.settleWithin (fuel : Nat) (h : r.Tended) : (settleWithin fuel r).Tended := by
  induction fuel generalizing r with
  | zero => exact h
  | succ fuel ih =>
    unfold PollingRegistry.settleWithin
    split
    · exact ih (h.runTask _ _)
    · exact h

theorem Tended.reclaim (h : r.Tended) : r.reclaim.Tended := by
  unfold PollingRegistry.reclaim
  split
  · exact h.withState fun service => State.watcherCount_map_le nofun
  · exact h

theorem Tended.settle (h : r.Tended) : r.settle.Tended := (h.settleWithin _).reclaim

theorem Tended.withNow (h : r.Tended) (now : Nat) : ({ r with now } : PollingRegistry).Tended :=
  h.congr rfl rfl rfl fun _ => Nat.le_refl _

theorem Tended.passUntil (target fuel : Nat) (h : r.Tended) : (passUntil target fuel r).Tended := by
  induction fuel generalizing r with
  | zero => exact h
  | succ fuel ih =>
    unfold PollingRegistry.passUntil
    dsimp only
    split
    · split
      · exact ih (h.settle.withNow _)
      · exact h.settle.withNow _
    · exact h.settle.withNow _

theorem Tended.advance (h : r.Tended) (ms : Nat) : (r.advance ms).Tended := h.passUntil _ _

theorem Tended.refresh (h : r.Tended) (service : String) : (r.refresh service).Tended := by
  unfold PollingRegistry.refresh
  dsimp only
  split
  · exact (h.beginRefresh service).advance _
  · exact h.beginRefresh service

/-! ## Runs -/

theorem Tended.perform (h : r.Tended) (action : Action) : (r.perform action).Tended := by
  cases action with
  | watch id service => exact h.subscribe id service
  | stop id => exact h.stop id
  | receive id limit => exact h.withState (State.watcherCount_perform_le rfl)
  | dropReceiver id => exact h.withState (State.watcherCount_perform_le rfl)
  | dropHandle id => exact h
  | beginRefresh service => exact h.beginRefresh service
  | refresh service => exact h.refresh service
  | step task choice => exact h.step task choice
  | pass ms => exact h.withNow _
  | advance ms => exact h.advance ms

theorem Tended.performAll (h : r.Tended) (actions : List Action) :
    (r.performAll actions).Tended := by
  induction actions generalizing r with
  | nil => exact h
  | cons action rest ih => exact ih (h.perform action)

theorem tended_create {catalog : Catalog} {options : PollingOptions} {inRuntime : Bool}
    (hcreate : create catalog options inRuntime = .ok r) (hperiod : 0 < options.period) :
    r.Tended := by
  unfold create at hcreate
  split at hcreate
  · cases hcreate
    refine ⟨hperiod, fun service hwatched => ?_, fun service i => ?_⟩
    · cases hwatched
    · exact ⟨nofun, fun hactive => absurd hactive.lt_length (Nat.not_lt_zero i)⟩
  · cases hcreate

/-! ## Pollers over a whole run -/

theorem Tended.get?_pollers_step (h : r.Tended) {service : String} {j : Nat} (hij : i ≠ j)
    (hentry : r.pollers.get? service = some j) (choice : StepChoice) :
    (r.step i choice).pollers.get? service = some j := by
  have hactive : ActiveAt r.tasks service j := (h.entry_iff service j).mp hentry
  rw [(h.step i choice).entry_iff, ActiveAt, getElem?_tasks_step h.period_pos hij]
  exact hactive

/-- Whatever happened to a registry with a positive period, a service with watchers is listed, a
service that is listed has a poller that is neither over nor cancelled there, and this is its only
one. A task that is over or cancelled is not listed, and however late a task runs, it does not take
another one off the map. -/
theorem pollers_tended {catalog : Catalog} {options : PollingOptions} {inRuntime : Bool}
    {start : PollingRegistry} (hcreate : create catalog options inRuntime = .ok start)
    (hperiod : 0 < options.period) (actions : List Action) (service : String) :
    let r := start.performAll actions
    (0 < r.state.watcherCount service →
      ∃ i, r.pollers.get? service = some i ∧
        ∀ j, ActiveAt r.tasks service j ↔ j = i) ∧
    (∀ i, r.pollers.get? service = some i →
      ∃ t, r.tasks[i]? = some t ∧ t.service = service ∧
        t.isPolling = true ∧ t.isCancelled = false) ∧
    (∀ i t, r.tasks[i]? = some t → t.service = service → t.isPolling = true →
      t.isCancelled = false → r.pollers.get? service = some i) ∧
    (∀ i t, r.tasks[i]? = some t → t.isOver = true ∨ t.isCancelled = true →
      r.pollers.get? service ≠ some i) ∧
    ∀ i j choice, i ≠ j → r.pollers.get? service = some j →
      (r.step i choice).pollers.get? service = some j := by
  intro r
  have h : r.Tended := (tended_create hcreate hperiod).performAll actions
  have hlisted : ∀ i t, r.tasks[i]? = some t →
      (r.pollers.get? service = some i ↔ t.service = service ∧ t.isActive = true) :=
    fun i t ht => (h.entry_iff service i).trans (activeAt_iff ht)
  refine ⟨fun hwatched => ?only, fun i hentry => ?live, fun i t ht hservice hpolling hkept => ?all,
    fun i t ht hdone hentry => ?none, fun i j choice hij hentry => ?late⟩
  case only =>
    obtain ⟨i, hentry⟩ := Option.isSome_iff_exists.mp (h.watched service hwatched)
    refine ⟨i, hentry, fun j => ?_⟩
    rw [← h.entry_iff, hentry, Option.some.injEq, eq_comm]
  case live =>
    obtain ⟨t, ht, hservice, hactive⟩ := (h.entry_iff service i).mp hentry
    rw [PollingTask.isActive, Bool.and_eq_true, Bool.not_eq_true'] at hactive
    exact ⟨t, ht, hservice, hactive⟩
  case all =>
    refine (hlisted i t ht).mpr ⟨hservice, ?_⟩
    rw [PollingTask.isActive, hpolling, hkept]
    rfl
  case none =>
    have hactive : t.isActive = true := ((hlisted i t ht).mp hentry).2
    rcases hdone with hover | hcancelled
    · rw [PollingTask.isActive_of_isOver hover] at hactive
      cases hactive
    · rw [PollingTask.isActive_of_isCancelled hcancelled] at hactive
      cases hactive
  case late => exact h.get?_pollers_step hij hentry choice

/-- The first poller is cancelled during its query. Its successor's only watcher lost its receiver,
so the first poller's query, which completes after all, leaves the service without watchers: it ends
and leaves the entry alone. -/
theorem pollers_tended_late_query :
    let catalog := Catalog.ofLists
      (Table.empty.set "users" [{ delay := 40, result := .ok [⟨"10.0.0.1", 80⟩] }])
    let start : PollingRegistry :=
      { options := { period := 100 }, catalog, state := State.new 64 }
    let actions : List Action :=
      [.watch 0 "users", .step 0 {}, .stop 0, .watch 1 "users", .dropReceiver 1, .pass 50]
    let r := start.performAll actions
    let late := r.step 0 { endsAtWait := false }
    0 < r.state.watcherCount "users" ∧ late.state.watcherCount "users" = 0 ∧
      (late.tasks[0]?).map PollingTask.isOver = some true ∧
      r.pollers.get? "users" = some 1 ∧ (∀ j, ActiveAt r.tasks "users" j ↔ j = 1) ∧
      late.pollers.get? "users" = some 1 := by
  intro catalog start actions r late
  have hcreate : create catalog { period := 100 } true = .ok start := rfl
  have hwatched : 0 < r.state.watcherCount "users" := by decide
  have hentry : r.pollers.get? "users" = some 1 := by decide
  obtain ⟨honly, _, _, _, hlate⟩ := pollers_tended hcreate (by decide) actions "users"
  obtain ⟨i, hi, hall⟩ := honly hwatched
  obtain rfl : i = 1 := Option.some.inj (hi.symm.trans hentry)
  have hidle : late.state.watcherCount "users" = 0 := by decide
  have hover : (late.tasks[0]?).map PollingTask.isOver = some true := by decide
  have hkept : late.pollers.get? "users" = some 1 :=
    hlate 0 1 { endsAtWait := false } Nat.zero_ne_one hentry
  exact ⟨hwatched, hidle, hover, hentry, hall, hkept⟩

end PollingRegistry

end Roster
