import Roster.Proofs.Registry.History
import Roster.Registry.Polling

/-!
# What a polling registry does

Everything that happens to a registry that polls is an `Action`: what its users do, single steps of
its tasks in any order, and the passing of time. The main statements say once what a step of a task
can do (`step_cases`): it waits on, ends because it was cancelled, starts a query at a tick that is
due, or completes a query that is over. What a query does comes down to two more cases
(`startQuery_cases`, `completeQuery_cases`).
-/

namespace Roster.PollingRegistry

/-! ## Actions -/

/-- What can happen to a registry that polls. -/
inductive Action where
  | watch (id : Nat) (service : String)
  | stop (id : Nat)
  | receive (id : Nat) (limit : Option Nat)
  | dropReceiver (id : Nat)
  | dropHandle (id : Nat)
  | beginRefresh (service : String)
  /-- Someone asks for a refresh of a service, and waits for its end. -/
  | refresh (service : String)
  | step (task : Nat) (choice : StepChoice)
  /-- Time passes, and no task takes notice. -/
  | pass (ms : Nat)
  /-- Time passes, and tasks run when they can. -/
  | advance (ms : Nat)

def perform (r : PollingRegistry) : Action → PollingRegistry
  | .watch id service => r.subscribe id service
  | .stop id => r.stop id
  | .receive id limit => { r with state := r.state.perform (.receive id limit) }
  | .dropReceiver id => { r with state := r.state.perform (.dropReceiver id) }
  | .dropHandle _ => r
  | .beginRefresh service => r.beginRefresh service
  | .refresh service => r.refresh service
  | .step task choice => r.step task choice
  | .pass ms => { r with now := r.now + ms }
  | .advance ms => r.advance ms

def performAll (r : PollingRegistry) (actions : List Action) : PollingRegistry :=
  actions.foldl perform r

@[simp] theorem performAll_nil (r : PollingRegistry) : r.performAll [] = r := rfl

@[simp] theorem performAll_cons (r : PollingRegistry) (action : Action) (rest : List Action) :
    r.performAll (action :: rest) = (r.perform action).performAll rest := rfl

/-! ## Queries -/

variable (r : PollingRegistry) (i : Nat) (t : PollingTask) (next : Option Nat)

/-- The registry after a task asked the catalog about its service. -/
def asked : PollingRegistry :=
  { r with
    catalog := (r.catalog.ask (r.backendName t.service)).2
    queries := r.queries ++ [⟨i, r.backendName t.service, r.now⟩] }

variable {r t} in
theorem startQuery_of_instant
    (hdelay : (r.catalog.ask (r.backendName t.service)).1.delay = 0) :
    r.startQuery i t next = (r.asked i t).completeQuery i t next
      (r.catalog.ask (r.backendName t.service)).1.result :=
  if_pos hdelay

variable {r t} in
theorem startQuery_of_lasting
    (hdelay : (r.catalog.ask (r.backendName t.service)).1.delay ≠ 0) :
    let answer := (r.catalog.ask (r.backendName t.service)).1
    r.startQuery i t next =
      if t.isCancelled then (r.asked i t).finishTask i t
      else (r.asked i t).suspend i t (.querying next (r.now + answer.delay) answer.result) :=
  if_neg hdelay

/-- A query is over at once, abandoned at once because its task is cancelled, or goes on. -/
theorem startQuery_cases :
    let answer := (r.catalog.ask (r.backendName t.service)).1
    r.startQuery i t next = (r.asked i t).completeQuery i t next answer.result ∨
    t.isCancelled = true ∧ r.startQuery i t next = (r.asked i t).finishTask i t ∨
    r.startQuery i t next =
      (r.asked i t).suspend i t (.querying next (r.now + answer.delay) answer.result) := by
  intro answer
  by_cases hdelay : answer.delay = 0
  · exact Or.inl (startQuery_of_instant i next hdelay)
  · rw [startQuery_of_lasting i next hdelay]
    split
    · next hcancelled => exact Or.inr (Or.inl ⟨hcancelled, rfl⟩)
    · exact Or.inr (Or.inr rfl)

variable (result : Except String (List CatalogEntry))

theorem adopt_eq (service : String) :
    ∃ catalog state, r.adopt service result = { r with catalog, state } ∧
      ∀ service', state.watcherCount service' ≤ r.state.watcherCount service' := by
  cases result with
  | error e => exact ⟨_, r.state, rfl, fun _ => Nat.le_refl _⟩
  | ok entries =>
    exact ⟨_, _, rfl, @State.watcherCount_perform_le r.state (.commit service _) rfl⟩

/-- After a query a refresh is over. A poller goes on to its next tick, unless the service has no
watchers left: then it is over and leaves the map of pollers. -/
theorem completeQuery_cases :
    let r' := r.adopt t.service result
    next = none ∧ r.completeQuery i t next result = r'.finishTask i t ∨
    ∃ due, next = some due ∧
      (r'.state.watcherCount t.service = 0 ∧
          r.completeQuery i t next result = (r'.release i t.service).finishTask i t ∨
        r.completeQuery i t next result = r'.suspend i t (.waiting due)) := by
  intro r'
  cases next with
  | none => exact Or.inl ⟨rfl, rfl⟩
  | some due =>
    refine Or.inr ⟨due, rfl, ?_⟩
    by_cases hidle : r'.state.watcherCount t.service = 0
    · exact Or.inl ⟨hidle, if_pos hidle⟩
    · exact Or.inr (if_neg hidle)

/-! ## Steps -/

variable {r i t}

theorem tick_cases (due : Nat) (choice : StepChoice) :
    r.tick i t due choice = r ∨
    t.isCancelled = true ∧ r.tick i t due choice = r.finishTask i t ∨
    due ≤ r.now ∧
      r.tick i t due choice = r.startQuery i t (some (nextTick r.options.period due r.now)) := by
  unfold tick
  split
  · next hends =>
    rw [Bool.and_eq_true] at hends
    exact Or.inr (Or.inl ⟨hends.1, rfl⟩)
  · split
    · exact Or.inl rfl
    · next hdue =>
      split
      · next hends =>
        rw [Bool.and_eq_true] at hends
        exact Or.inr (Or.inl ⟨hends.1, rfl⟩)
      · exact Or.inr (Or.inr ⟨Nat.le_of_not_lt hdue, rfl⟩)

/-- What a step of a task can do: nothing, end a cancelled task, start a query at a tick that is
due, or complete a query that is over. -/
theorem step_cases (hperiod : 0 < r.options.period) (ht : r.tasks[i]? = some t)
    (choice : StepChoice) :
    r.step i choice = r ∨
    t.isCancelled = true ∧ r.step i choice = r.finishTask i t ∨
    (∃ due, due ≤ r.now ∧ (t.phase = .fresh ∧ due = r.now ∨ t.phase = .waiting due) ∧
      r.step i choice = r.startQuery i t (some (nextTick r.options.period due r.now))) ∨
    ∃ next finish result, t.phase = .querying next finish result ∧ finish ≤ r.now ∧
      r.step i choice = r.completeQuery i t next result := by
  unfold step
  rw [ht]
  dsimp only
  cases hphase : t.phase with
  | fresh =>
    dsimp only
    rw [if_neg (Nat.ne_of_gt hperiod)]
    rcases tick_cases (r := r) (i := i) (t := t) r.now choice with hstay | hends | ⟨hdue, hstarts⟩
    · exact Or.inl hstay
    · exact Or.inr (Or.inl hends)
    · exact Or.inr (Or.inr (Or.inl ⟨r.now, hdue, Or.inl ⟨rfl, rfl⟩, hstarts⟩))
  | waiting due =>
    dsimp only
    rcases tick_cases (r := r) (i := i) (t := t) due choice with hstay | hends | ⟨hdue, hstarts⟩
    · exact Or.inl hstay
    · exact Or.inr (Or.inl hends)
    · exact Or.inr (Or.inr (Or.inl ⟨due, hdue, Or.inr rfl, hstarts⟩))
  | querying next finish result =>
    dsimp only
    split
    · next hends =>
      rw [Bool.and_eq_true] at hends
      exact Or.inr (Or.inl ⟨hends.1, rfl⟩)
    · split
      · exact Or.inl rfl
      · next hover =>
        exact Or.inr (Or.inr (Or.inr
          ⟨next, finish, result, rfl, Nat.le_of_not_lt hover, rfl⟩))
  | ended => exact Or.inl rfl
  | failed => exact Or.inl rfl

theorem step_of_none (h : r.tasks[i]? = none) (choice : StepChoice) : r.step i choice = r := by
  rw [step, h]

theorem completeQuery_eq (r : PollingRegistry) (i : Nat) (t : PollingTask) (next : Option Nat)
    (result : Except String (List CatalogEntry)) :
    ∃ pollers phase rank waits,
      ((phase = .ended ∨ ∃ due, next = some due ∧ phase = .waiting due) ∧
        (pollers = r.pollers ∨ pollers = r.pollers.erase t.service)) ∧
      r.completeQuery i t next result =
        { r with
          catalog := (r.adopt t.service result).catalog
          state := (r.adopt t.service result).state
          pollers
          tasks := r.tasks.set i { t with phase, rank }
          waits } := by
  obtain ⟨catalog, state, hadopt, _⟩ := adopt_eq r result t.service
  rcases completeQuery_cases r i t next result with ⟨_, hover⟩ | ⟨due, hnext, ⟨_, hover⟩ | hgoes⟩
  · rw [hover, hadopt]
    exact ⟨r.pollers, .ended, t.rank, r.waits, ⟨Or.inl rfl, Or.inl rfl⟩, rfl⟩
  · rw [hover, hadopt, release]
    split
    · exact ⟨_, .ended, t.rank, r.waits, ⟨Or.inl rfl, Or.inr rfl⟩, rfl⟩
    · exact ⟨r.pollers, .ended, t.rank, r.waits, ⟨Or.inl rfl, Or.inl rfl⟩, rfl⟩
  · rw [hgoes, hadopt]
    exact ⟨r.pollers, .waiting due, r.waits, r.waits + 1,
      ⟨Or.inr ⟨due, hnext, rfl⟩, Or.inl rfl⟩, rfl⟩

theorem tasks_completeQuery (r : PollingRegistry) (i : Nat) (t : PollingTask) (next : Option Nat)
    (result : Except String (List CatalogEntry)) :
    ∃ phase rank,
      (r.completeQuery i t next result).tasks = r.tasks.set i { t with phase, rank } := by
  obtain ⟨pollers, phase, rank, waits, _, heq⟩ := completeQuery_eq r i t next result
  rw [heq]
  exact ⟨phase, rank, rfl⟩

theorem tasks_startQuery (r : PollingRegistry) (i : Nat) (t : PollingTask) (next : Option Nat) :
    ∃ phase rank, (r.startQuery i t next).tasks = r.tasks.set i { t with phase, rank } := by
  rcases startQuery_cases r i t next with hover | ⟨_, hends⟩ | hgoes
  · rw [hover]
    exact tasks_completeQuery (r.asked i t) i t next _
  · rw [hends]
    exact ⟨.ended, t.rank, rfl⟩
  · rw [hgoes]
    exact ⟨.querying next _ _, r.waits, rfl⟩

theorem getElem?_tasks_step {j : Nat} (hperiod : 0 < r.options.period) (hij : i ≠ j)
    (choice : StepChoice) : (r.step i choice).tasks[j]? = r.tasks[j]? := by
  cases ht : r.tasks[i]? with
  | none => rw [step_of_none ht]
  | some t =>
    have hset : r.step i choice = r ∨ ∃ t', (r.step i choice).tasks = r.tasks.set i t' := by
      rcases step_cases hperiod ht choice with
        hstay | ⟨_, hends⟩ | ⟨due, _, _, hstarts⟩ | ⟨next, finish, result, _, _, hover⟩
      · exact Or.inl hstay
      · rw [hends]
        exact Or.inr ⟨_, rfl⟩
      · rw [hstarts]
        obtain ⟨phase, rank, hset⟩ :=
          tasks_startQuery r i t (some (nextTick r.options.period due r.now))
        exact Or.inr ⟨_, hset⟩
      · rw [hover]
        obtain ⟨phase, rank, hset⟩ := tasks_completeQuery r i t next result
        exact Or.inr ⟨_, hset⟩
    rcases hset with hstay | ⟨t', hset⟩
    · rw [hstay]
    · rw [hset, List.getElem?_set_ne hij]

/-! ## Stops -/

/-- A stop changes the subscriptions, and if it leaves a service without watchers, it cancels the
service's poller and takes it off the map. -/
theorem stop_cases (r : PollingRegistry) (id : Nat) :
    r.stop id = { r with state := (r.state.stop id).2 } ∨
    ∃ service i, (r.state.stop id).2.watcherCount service = 0 ∧
      r.pollers.get? service = some i ∧
      r.stop id = { r with
        state := (r.state.stop id).2, pollers := r.pollers.erase service }.cancel i := by
  unfold stop
  cases hfound : r.state.subscription? id with
  | none =>
    refine Or.inl ?_
    rw [State.stop, hfound]
  | some sub =>
    dsimp only
    split
    · next i hleft hentry =>
      obtain ⟨sub', hfound', hcount⟩ := State.stop_eq_some hleft
      obtain rfl : sub = sub' := Option.some.inj (hfound.symm.trans hfound')
      exact Or.inr ⟨sub.service, i, hcount, hentry, rfl⟩
    · exact Or.inl rfl

end Roster.PollingRegistry
