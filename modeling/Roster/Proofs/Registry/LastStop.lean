import Roster.Proofs.Registry.Listed

/-!
# What is left of a poller after the last stop

The stop of a service's last subscription cancels the service's poller. A cancelled task waits at
its next wait for its cancellation and for what it waited for before, and if both have come it may
go on: it makes a query, or adopts what its query brought (`PollingTask.goesOn`).

From the last stop until the service is asked for again, `Unwatched` holds: the service has no
watchers, and each of its tasks is over or cancelled. The next step of such a task is its last
(`Unwatched.step_eq`). In a moment the service is asked about, or a query about it brings something,
exactly if the moment is a step of a task of the service that goes on (`Unwatched.idle_iff`). The
main theorem says so of whole runs, and how much may slip through at most (`last_stop_quiet_iff`).
-/

namespace Roster

namespace PollingTask

/-- Whether what a task waits for has come. The first tick of a poller comes at once, unless ticks
are zero apart. -/
def isDue (t : PollingTask) (period now : Nat) : Bool :=
  match t.phase with
  | .fresh => period != 0
  | .waiting due => due ≤ now
  | .querying _ finish _ => finish ≤ now
  | .ended => false
  | .failed => false

/-- Whether a task goes on although it may have been cancelled: what it waits for has come, and
neither at this wait nor before a query does it choose to end. -/
def goesOn (t : PollingTask) (period now : Nat) (choice : StepChoice) : Bool :=
  t.isDue period now && !choice.endsAtWait && (t.isQuerying || !choice.endsBeforeQuery)

variable {t : PollingTask} {period now : Nat} {choice : StepChoice}

theorem moveAt_of_isCancelled (hcancelled : t.isCancelled = true) (due : Nat) :
    t.moveAt period now due choice =
      if due ≤ now ∧ choice.endsAtWait = false ∧ choice.endsBeforeQuery = false then
        .ask (some (nextTick period due now))
      else .giveUp := by
  unfold moveAt
  rw [hcancelled]
  by_cases hdue : due ≤ now
  · have hnow : ¬ now < due := Nat.not_lt_of_le hdue
    cases choice.endsAtWait <;> cases choice.endsBeforeQuery <;> simp [hdue, hnow]
  · have hnow : now < due := Nat.lt_of_not_le hdue
    simp [hdue, hnow]

/-- A cancelled task that goes on makes a query or completes one. -/
theorem move_of_goesOn (hcancelled : t.isCancelled = true)
    (hgoes : t.goesOn period now choice = true) :
    (∃ next, t.move period now choice = .ask next) ∨
      ∃ next result, t.move period now choice = .complete next result := by
  unfold goesOn isDue isQuerying at hgoes
  unfold move
  cases hphase : t.phase with
  | fresh =>
    simp only [hphase, Bool.and_eq_true, bne_iff_ne, Bool.not_eq_true', Bool.false_or] at hgoes
    obtain ⟨⟨hperiod, hwait⟩, hquery⟩ := hgoes
    dsimp only
    rw [if_neg hperiod, moveAt_of_isCancelled hcancelled, if_pos ⟨Nat.le_refl now, hwait, hquery⟩]
    exact Or.inl ⟨_, rfl⟩
  | waiting due =>
    simp only [hphase, Bool.and_eq_true, decide_eq_true_eq, Bool.not_eq_true',
      Bool.false_or] at hgoes
    obtain ⟨⟨hdue, hwait⟩, hquery⟩ := hgoes
    dsimp only
    rw [moveAt_of_isCancelled hcancelled, if_pos ⟨hdue, hwait, hquery⟩]
    exact Or.inl ⟨_, rfl⟩
  | querying next finish result =>
    simp only [hphase, Bool.and_eq_true, decide_eq_true_eq, Bool.not_eq_true',
      Bool.true_or, and_true] at hgoes
    obtain ⟨hdue, hwait⟩ := hgoes
    have hnow : ¬ now < finish := Nat.not_lt_of_le hdue
    dsimp only
    rw [hwait, decide_eq_false hnow, Bool.or_false, Bool.and_false, if_neg Bool.false_ne_true,
      if_neg hnow]
    exact Or.inr ⟨next, result, rfl⟩
  | ended =>
    rw [hphase] at hgoes
    cases hgoes
  | failed =>
    rw [hphase] at hgoes
    cases hgoes

/-- A cancelled task that does not go on ends, unless it is over. -/
theorem move_of_not_goesOn (hcancelled : t.isCancelled = true) (hlive : t.isOver = false)
    (hgoes : t.goesOn period now choice = false) :
    t.move period now choice = .giveUp ∨ t.move period now choice = .breakDown := by
  unfold goesOn isDue isQuerying at hgoes
  unfold isOver at hlive
  unfold move
  cases hphase : t.phase with
  | fresh =>
    simp only [hphase, Bool.false_or] at hgoes
    dsimp only
    split
    · exact Or.inr rfl
    · next hperiod =>
      rw [moveAt_of_isCancelled hcancelled]
      refine Or.inl (if_neg fun ⟨_, hwait, hquery⟩ => ?_)
      simp [hperiod, hwait, hquery] at hgoes
  | waiting due =>
    simp only [hphase, Bool.false_or] at hgoes
    dsimp only
    rw [moveAt_of_isCancelled hcancelled]
    refine Or.inl (if_neg fun ⟨hdue, hwait, hquery⟩ => ?_)
    simp [hdue, hwait, hquery] at hgoes
  | querying next finish result =>
    simp only [hphase, Bool.true_or, Bool.and_true] at hgoes
    dsimp only
    refine Or.inl (if_pos ?_)
    rw [hcancelled, Bool.true_and]
    cases hwait : choice.endsAtWait with
    | true => rfl
    | false =>
      rw [hwait, Bool.not_false, Bool.and_true, decide_eq_false_iff_not] at hgoes
      exact decide_eq_true (Nat.lt_of_not_le hgoes)
  | ended =>
    rw [hphase] at hlive
    cases hlive
  | failed =>
    rw [hphase] at hlive
    cases hlive

theorem move_ne_stay (hcancelled : t.isCancelled = true) (hlive : t.isOver = false) :
    t.move period now choice ≠ .stay := by
  intro hstay
  cases hgoes : t.goesOn period now choice with
  | true =>
    rcases move_of_goesOn hcancelled hgoes with ⟨next, hmove⟩ | ⟨next, result, hmove⟩ <;>
      cases hstay.symm.trans hmove
  | false =>
    rcases move_of_not_goesOn hcancelled hlive hgoes with hmove | hmove <;>
      cases hstay.symm.trans hmove

theorem goesOn_of_isOver (hover : t.isOver = true) : t.goesOn period now choice = false := by
  unfold isOver at hover
  unfold goesOn isDue
  split at hover
  · next hphase => rw [hphase]; rfl
  · next hphase => rw [hphase]; rfl
  · cases hover

end PollingTask

namespace PollingRegistry

variable {options : PollingOptions} {r : PollingRegistry} {i : Nat} {t t' : PollingTask}
  {service : String} {m : Action}

/-- How many tasks of a service are not over. -/
def unfinished (r : PollingRegistry) (service : String) : Nat :=
  r.tasks.countP fun t => t.service == service && !t.isOver

/-! ## After the last stop -/

/-- A service has no watchers, and each of its tasks is over or cancelled. -/
structure Unwatched (r : PollingRegistry) (service : String) : Prop where
  watcherCount_eq : r.state.watcherCount service = 0
  finished : ∀ (i : Nat) (t : PollingTask), r.tasks[i]? = some t → t.service = service →
    t.isOver = true ∨ t.isCancelled = true

theorem getElem?_tasks_cancel (r : PollingRegistry) (i j : Nat) :
    (r.cancel i).tasks[j]? =
      r.tasks[j]?.map fun t => if i = j then { t with isCancelled := true } else t := by
  unfold cancel
  by_cases hij : i = j
  · subst hij
    cases ht : r.tasks[i]? with
    | none => exact ht
    | some t =>
      refine (List.getElem?_set_self (List.getElem?_eq_some_iff.mp ht).1).trans ?_
      rw [Option.map_some, if_pos rfl]
  · simp only [if_neg hij, Option.map_id']
    split
    · exact List.getElem?_set_ne hij
    · rfl

/-- The stop that leaves a service without watchers leaves it with tasks that are over or cancelled,
unless a refresh of the service is under way. -/
theorem Listed.unwatched_stop (h : r.Listed) {id : Nat} {sub : Subscription}
    (hsub : r.state.subscription? id = some sub) (hlast : (r.state.stop id).1 = some 0)
    (hrefresh : ∀ t ∈ r.tasks, t.service = sub.service → t.isRefreshing = false) :
    (r.stop id).Unwatched sub.service := by
  have hfinished {j : Nat} {t : PollingTask} (ht : r.tasks[j]? = some t)
      (hservice : t.service = sub.service) (hout : r.pollers.get? sub.service ≠ some j) :
      t.isOver = true ∨ t.isCancelled = true :=
    h.over_or_cancelled ht (hrefresh t (List.mem_of_getElem? ht) hservice) (hservice ▸ hout)
  refine ⟨?count, fun j t ht hservice => ?tasks⟩
  case count =>
    obtain ⟨sub', hsub', hcount⟩ := State.stop_eq_some hlast
    obtain rfl : sub = sub' := Option.some.inj (hsub.symm.trans hsub')
    rw [state_stop]
    exact hcount
  case tasks =>
    unfold PollingRegistry.stop at ht
    cases hentry : r.pollers.get? sub.service with
    | none =>
      simp only [hsub, hlast, hentry] at ht
      exact hfinished ht hservice (by rw [hentry]; nofun)
    | some i =>
      simp only [hsub, hlast, hentry, getElem?_tasks_cancel] at ht
      obtain ⟨u, hu, rfl⟩ := Option.map_eq_some_iff.mp ht
      split at hservice
      · next hij => exact Or.inr (by rw [if_pos hij])
      · next hij =>
        rw [if_neg hij]
        refine hfinished hu hservice fun hentry' => hij ?_
        exact Option.some.inj (hentry.symm.trans hentry')

theorem eq_watch_of_onState? {id : Nat} (h : r.onState? m = some (.subscribe id service)) :
    m = .watch id service := by
  cases hends : r.ending? m with
  | some e =>
    rw [onState?_of_ending hends] at h
    obtain ⟨entries, _, hcommit⟩ := Option.map_eq_some_iff.mp h
    cases hcommit
  | none =>
    rw [onState?_of_none hends] at h
    cases m with
    | watch id' service' =>
      cases h
      rfl
    | _ => cases h

theorem watcherCount_perform_moment (hm : m.isSingle = true)
    (hwatch : ∀ id, m ≠ .watch id service) :
    (r.perform m).state.watcherCount service ≤ r.state.watcherCount service := by
  rw [r.state_perform hm]
  cases haction : r.onState? m with
  | none => exact Nat.le_refl _
  | some action =>
    show (r.state.perform action).watcherCount service ≤ _
    cases action with
    | subscribe id service' =>
      have hne : service' ≠ service := by
        rintro rfl
        exact hwatch id (eq_watch_of_onState? haction)
      show (r.state.subscribe id service').watcherCount service ≤ _
      rw [State.watcherCount_subscribe, if_neg hne]
      exact Nat.le_refl _
    | _ => exact State.watcherCount_perform_le rfl service

/-- Until the service is asked for again, it stays without watchers, and its tasks stay over or
cancelled. -/
theorem Unwatched.perform (h : r.Unwatched service) (hm : m.isSingle = true)
    (hopens : m.opens? ≠ some service) : (r.perform m).Unwatched service := by
  have hcount := watcherCount_perform_moment (r := r) hm
    fun id hwatch => hopens (congrArg Action.opens? hwatch)
  rw [h.watcherCount_eq] at hcount
  refine ⟨Nat.le_zero.mp hcount, fun j u hu hservice => ?_⟩
  rcases tasks_perform (r := r) hm with hstays | ⟨i, t, t', ht, hbecomes, hset⟩ | ⟨t', ht', hpush⟩
  · rw [hstays] at hu
    exact h.finished j u hu hservice
  · rw [hset] at hu
    by_cases hij : i = j
    · subst hij
      rw [List.getElem?_set_self (List.getElem?_eq_some_iff.mp ht).1] at hu
      cases hu
      exact (h.finished i t ht (hbecomes.service_eq.symm.trans hservice)).imp
        hbecomes.isOver hbecomes.isCancelled
    · rw [List.getElem?_set_ne hij] at hu
      exact h.finished j u hu hservice
  · rw [hpush] at hu
    rcases List.mem_append.mp (List.mem_of_getElem? hu) with hold | hnew
    · obtain ⟨k, hk⟩ := List.getElem?_of_mem hold
      exact h.finished k u hk hservice
    · obtain rfl := List.mem_singleton.mp hnew
      exact absurd (hservice ▸ ht') hopens

theorem Unwatched.performAll (h : r.Unwatched service) {later : List Action}
    (hlater : ∀ m ∈ later, m.isSingle = true ∧ m.opens? ≠ some service) :
    (r.performAll later).Unwatched service := by
  induction later generalizing r with
  | nil => exact h
  | cons m rest ih =>
    obtain ⟨⟨hm, hopens⟩, hrest⟩ := List.forall_mem_cons.mp hlater
    exact ih (h.perform hm hopens) hrest

/-! ## The last step of a cancelled task -/

theorem tasks_completeQuery_of_unwatched {result : Except String (List CatalogEntry)}
    (hidle : (r.adopt t.service result).state.watcherCount t.service = 0) (i : Nat)
    (next : Option Nat) :
    (r.completeQuery i t next result).tasks = r.tasks.set i { t with phase := .ended } := by
  obtain ⟨catalog, state, hadopt, _⟩ := adopt_eq r result t.service
  rw [hadopt] at hidle
  unfold completeQuery
  rw [hadopt]
  cases next with
  | none => rfl
  | some due =>
    dsimp only at hidle ⊢
    rw [if_pos hidle, release]
    split <;> rfl

theorem tasks_completeQuery_of_idle (hidle : r.state.watcherCount t.service = 0) (i : Nat)
    (next : Option Nat) (result : Except String (List CatalogEntry)) :
    (r.completeQuery i t next result).tasks = r.tasks.set i { t with phase := .ended } := by
  obtain ⟨catalog, state, hadopt, hcount⟩ := adopt_eq r result t.service
  refine tasks_completeQuery_of_unwatched (Nat.le_zero.mp ?_) i next
  rw [hadopt, ← hidle]
  exact hcount t.service

theorem tasks_startQuery_of_idle (hidle : r.state.watcherCount t.service = 0)
    (hcancelled : t.isCancelled = true) (i : Nat) (next : Option Nat) :
    (r.startQuery i t next).tasks = r.tasks.set i { t with phase := .ended } := by
  unfold startQuery
  dsimp only
  split
  · exact tasks_completeQuery_of_idle (r := r.asked i t) hidle i next _
  · rfl

theorem Unwatched.step_eq (h : r.Unwatched t.service) (ht : r.tasks[i]? = some t)
    (hlive : t.isOver = false) (choice : StepChoice) :
    ∃ t', t.Becomes t' ∧ t'.isOver = true ∧ (r.step i choice).tasks = r.tasks.set i t' := by
  have hcancelled : t.isCancelled = true := (h.finished i t ht rfl).resolve_left (by simp [hlive])
  have hended : t.Becomes { t with phase := .ended } := ⟨rfl, id, fun _ => rfl⟩
  rw [step_eq_carryOut ht]
  cases hmove : t.move r.options.period r.now choice with
  | stay => exact absurd hmove (PollingTask.move_ne_stay hcancelled hlive)
  | breakDown => exact ⟨{ t with phase := .failed }, ⟨rfl, id, fun _ => rfl⟩, rfl, rfl⟩
  | giveUp => exact ⟨_, hended, rfl, rfl⟩
  | ask next =>
    exact ⟨_, hended, rfl, tasks_startQuery_of_idle h.watcherCount_eq hcancelled i next⟩
  | complete next result =>
    exact ⟨_, hended, rfl, tasks_completeQuery_of_idle h.watcherCount_eq i next result⟩

/-- Whether a moment is a step of a cancelled task of a service that goes on. -/
def slips (r : PollingRegistry) (service : String) : Action → Bool
  | .step i choice =>
    r.tasks[i]?.any fun t =>
      t.service == service && t.isCancelled && t.goesOn r.options.period r.now choice
  | _ => false

/-- Whether in all of some moments each cancelled task of a service that runs ends. -/
def heeds (r : PollingRegistry) (service : String) : List Action → Bool
  | [] => true
  | m :: rest => !r.slips service m && (r.perform m).heeds service rest

/-- A step of a task of the service makes no query and completes none exactly if the task does not
go on. -/
theorem Unwatched.move_idle_iff (h : r.Unwatched t.service) (ht : r.tasks[i]? = some t)
    (choice : StepChoice) :
    (r.moveQuery? i t (t.move r.options.period r.now choice) = none ∧
        (r.moveEnding? t (t.move r.options.period r.now choice)).bind Ending.result? = none) ↔
      (t.isCancelled && t.goesOn r.options.period r.now choice) = false := by
  cases hover : t.isOver with
  | true =>
    rw [PollingTask.move_of_isOver hover, PollingTask.goesOn_of_isOver hover, Bool.and_false]
    exact ⟨fun _ => rfl, fun _ => ⟨rfl, rfl⟩⟩
  | false =>
    have hcancelled : t.isCancelled = true :=
      (h.finished i t ht rfl).resolve_left (by simp [hover])
    rw [hcancelled, Bool.true_and]
    cases hgoes : t.goesOn r.options.period r.now choice with
    | true =>
      refine ⟨fun hidle => ?_, nofun⟩
      rcases PollingTask.move_of_goesOn hcancelled hgoes with ⟨next, hmove⟩ | ⟨next, result, hmove⟩
      · rw [hmove] at hidle
        cases hidle.1
      · rw [hmove] at hidle
        cases hidle.2
    | false =>
      refine ⟨fun _ => rfl, fun _ => ?_⟩
      rcases PollingTask.move_of_not_goesOn hcancelled hover hgoes with hmove | hmove
      · rw [hmove]
        refine ⟨rfl, ?_⟩
        show (if t.isQuerying then some Ending.abandoned else none).bind _ = none
        split <;> rfl
      · rw [hmove]
        exact ⟨rfl, rfl⟩

/-- In a moment a service is not asked about, and no query about it brings anything, exactly if no
cancelled task of it goes on. -/
theorem Unwatched.idle_iff (h : r.Unwatched service) (hopens : m.opens? ≠ some service) :
    about service (r.query? m).toList = [] ∧ r.results service [m] = [] ↔
      r.slips service m = false := by
  rw [results_single]
  cases m with
  | beginRefresh service' =>
    have hne : service' ≠ service := fun heq => hopens (congrArg some heq)
    simp [query?, ending?, about, hne, slips]
  | step i choice =>
    cases ht : r.tasks[i]? with
    | none => simp [query?, ending?, about, slips, ht]
    | some t =>
      simp only [query?, ending?, slips, ht, Option.bind_some, Option.any_some]
      by_cases hservice : t.service = service
      · subst hservice
        rw [about_map_self, about_map_self, beq_self_eq_true, Bool.true_and, ← h.move_idle_iff ht]
        cases r.moveQuery? i t _ <;> cases r.moveEnding? t _ <;> simp
      · rw [about_map_of_ne hservice, about_map_of_ne hservice, beq_eq_false_iff_ne.mpr hservice]
        simp
  | _ => simp [query?, ending?, about, slips]

/-! ## How many tasks are left to end -/

section Count

variable {tasks : List PollingTask} {p : PollingTask → Bool}

theorem countP_set_le (ht : tasks[i]? = some t) (hp : p t' = true → p t = true) :
    (tasks.set i t').countP p ≤ tasks.countP p := by
  obtain ⟨hi, rfl⟩ := List.getElem?_eq_some_iff.mp ht
  rw [List.countP_set hi]
  by_cases h' : p t' = true
  · have hpos : 0 < tasks.countP p := List.countP_pos_iff.mpr ⟨_, List.getElem_mem hi, hp h'⟩
    rw [if_pos (hp h'), if_pos h']
    omega
  · rw [if_neg h']
    omega

theorem countP_set_lt (ht : tasks[i]? = some t) (hp : p t = true) (hp' : p t' = false) :
    (tasks.set i t').countP p + 1 = tasks.countP p := by
  obtain ⟨hi, rfl⟩ := List.getElem?_eq_some_iff.mp ht
  have hpos : 0 < tasks.countP p := List.countP_pos_iff.mpr ⟨_, List.getElem_mem hi, hp⟩
  rw [List.countP_set hi, if_pos hp, if_neg (Bool.eq_false_iff.mp hp')]
  omega

end Count

theorem unfinished_perform_le (hm : m.isSingle = true) (hopens : m.opens? ≠ some service) :
    (r.perform m).unfinished service ≤ r.unfinished service := by
  unfold unfinished
  rcases tasks_perform (r := r) hm with hstays | ⟨i, t, t', ht, hbecomes, hset⟩ | ⟨t', ht', hpush⟩
  · exact Nat.le_of_eq (congrArg (List.countP _) hstays)
  · rw [hset]
    refine countP_set_le ht fun hlive => ?_
    rw [Bool.and_eq_true, Bool.not_eq_true', hbecomes.service_eq] at hlive
    rw [Bool.and_eq_true, Bool.not_eq_true']
    refine ⟨hlive.1, Bool.eq_false_iff.mpr fun hover => ?_⟩
    rw [hbecomes.isOver hover] at hlive
    cases hlive.2
  · have hne : t'.service ≠ service := fun heq => hopens (heq ▸ ht')
    rw [hpush, List.countP_append, List.countP_singleton, beq_eq_false_iff_ne.mpr hne]
    exact Nat.le_refl _

theorem Unwatched.unfinished_of_slips (h : r.Unwatched service)
    (hslips : r.slips service m = true) :
    (r.perform m).unfinished service + 1 = r.unfinished service := by
  cases m with
  | step i choice =>
    cases ht : r.tasks[i]? with
    | none =>
      rw [slips, ht] at hslips
      cases hslips
    | some t =>
      rw [slips, ht, Option.any_some, Bool.and_eq_true, Bool.and_eq_true, beq_iff_eq] at hslips
      obtain ⟨⟨rfl, _⟩, hgoes⟩ := hslips
      have hlive : t.isOver = false := by
        cases hover : t.isOver with
        | true =>
          rw [PollingTask.goesOn_of_isOver hover] at hgoes
          cases hgoes
        | false => rfl
      obtain ⟨t', hbecomes, hover, hset⟩ := h.step_eq ht hlive choice
      show (r.step i choice).tasks.countP _ + 1 = _
      rw [hset]
      exact countP_set_lt ht (by simp [hlive]) (by simp [hover])
  | _ => cases hslips

/-- As many queries as start in a moment, and as many as bring something, tasks are over after it
that were not before. -/
theorem Unwatched.balance (h : r.Unwatched service) (hm : m.isSingle = true)
    (hopens : m.opens? ≠ some service) :
    (about service (r.query? m).toList).length + (r.perform m).unfinished service ≤
        r.unfinished service ∧
      (r.results service [m]).length + (r.perform m).unfinished service ≤
        r.unfinished service := by
  cases hslips : r.slips service m with
  | false =>
    obtain ⟨hquery, hresult⟩ := (h.idle_iff hopens).mpr hslips
    have hle : (r.perform m).unfinished service ≤ r.unfinished service :=
      unfinished_perform_le hm hopens
    rw [hquery, hresult, List.length_nil, List.length_nil, Nat.zero_add]
    exact ⟨hle, hle⟩
  | true =>
    have hless := h.unfinished_of_slips hslips
    have hquery : (about service (r.query? m).toList).length ≤ 1 :=
      Nat.le_trans (List.length_filterMap_le _ _) (by cases r.query? m <;> simp)
    have hresult : (r.results service [m]).length ≤ 1 := by
      rw [results_single]
      refine Nat.le_trans (List.length_filterMap_le _ _) ?_
      exact Nat.le_trans (List.length_filterMap_le _ _) (by cases r.ending? m <;> simp)
    omega

/-! ## Runs after the last stop -/

theorem Unwatched.idle_iff_heeds (h : r.Unwatched service) {later : List Action}
    (hlater : ∀ m ∈ later, m.isSingle = true ∧ m.opens? ≠ some service) :
    about service (r.queriesIn later) = [] ∧ r.results service later = [] ↔
      r.heeds service later = true := by
  induction later generalizing r with
  | nil => exact ⟨fun _ => rfl, fun _ => ⟨rfl, rfl⟩⟩
  | cons m rest ih =>
    obtain ⟨⟨hm, hopens⟩, hrest⟩ := List.forall_mem_cons.mp hlater
    have hrun := ih (h.perform hm hopens) hrest
    rw [queriesIn, about_append, results_cons, List.append_eq_nil_iff, List.append_eq_nil_iff,
      and_and_and_comm, h.idle_iff hopens, hrun, heeds, Bool.and_eq_true, Bool.not_eq_true']

theorem Unwatched.balanceAll (h : r.Unwatched service) {later : List Action}
    (hlater : ∀ m ∈ later, m.isSingle = true ∧ m.opens? ≠ some service) :
    (about service (r.queriesIn later)).length + (r.performAll later).unfinished service ≤
        r.unfinished service ∧
      (r.results service later).length + (r.performAll later).unfinished service ≤
        r.unfinished service := by
  induction later generalizing r with
  | nil => exact ⟨Nat.le_of_eq (Nat.zero_add _), Nat.le_of_eq (Nat.zero_add _)⟩
  | cons m rest ih =>
    obtain ⟨⟨hm, hopens⟩, hrest⟩ := List.forall_mem_cons.mp hlater
    obtain ⟨hquery, hresult⟩ := h.balance hm hopens
    obtain ⟨hqueries, hresults⟩ := ih (h.perform hm hopens) hrest
    rw [queriesIn, about_append, results_cons, List.length_append, List.length_append,
      performAll_cons]
    omega

theorem lastEntries?_of_results_eq_nil {moments : List Action}
    (h : r.results service moments = []) : lastEntries? service (r.endings moments) = none := by
  rw [results, List.filterMap_eq_nil_iff] at h
  rw [lastEntries?, List.getLast?_eq_none_iff, List.filterMap_eq_nil_iff]
  intro e he
  split
  · next hservice =>
    have hnone : e.2.result? = none :=
      h e.2 (List.mem_filterMap.mpr ⟨e, he, if_pos hservice⟩)
    cases hending : e.2 with
    | completed result =>
      rw [hending] at hnone
      cases hnone
    | abandoned => rfl
  · rfl

theorem heeds_of_endsAtWait {moments : List Action}
    (h : ∀ i choice, .step i choice ∈ moments → choice.endsAtWait = true) :
    r.heeds service moments = true := by
  induction moments generalizing r with
  | nil => rfl
  | cons m rest ih =>
    have hrest := ih (r := r.perform m) fun i choice hmem =>
      h i choice (List.mem_cons_of_mem _ hmem)
    rw [heeds, hrest, Bool.and_true, Bool.not_eq_true']
    cases m with
    | step i choice =>
      have hends : choice.endsAtWait = true := h i choice List.mem_cons_self
      unfold slips PollingTask.goesOn
      simp [hends]
    | _ => rfl

/-- Take the stop of a service's last subscription, while no refresh of the service is under way,
and any moments after it in which nobody asks for the service. The service is asked about once more,
or a query about it brings something, exactly if some cancelled task of the service that runs goes
on. None does if the tasks always end at a wait at which they find themselves cancelled, and unless
a query brings something the members stay. The next step of a task of the service is its last in any
case, so that no more queries are made, and no more bring something, than there were tasks to end.
-/
theorem last_stop_quiet_iff {catalog : Catalog} {inRuntime : Bool} {start : PollingRegistry}
    (hcreate : create catalog options inRuntime = .ok start) (before : List Action) {id : Nat}
    {sub : Subscription} (hsub : (start.performAll before).state.subscription? id = some sub)
    (hlast : ((start.performAll before).state.stop id).1 = some 0)
    (hrefresh : ∀ t ∈ (start.performAll before).tasks, t.service = sub.service →
      t.isRefreshing = false)
    {later : List Action}
    (hlater : ∀ m ∈ later, m.isSingle = true ∧ m.opens? ≠ some sub.service) :
    let r := (start.performAll before).stop id
    let r' := r.performAll later
    (r'.queriesAbout sub.service = r.queriesAbout sub.service ∧ r.results sub.service later = [] ↔
      r.heeds sub.service later = true) ∧
    ((∀ i choice, .step i choice ∈ later → choice.endsAtWait = true) →
      r.heeds sub.service later = true) ∧
    (r.results sub.service later = [] →
      r'.state.instances sub.service = r.state.instances sub.service) ∧
    (∀ i t choice, r'.tasks[i]? = some t → t.service = sub.service →
      ((r'.step i choice).tasks[i]?).any (·.isOver) = true) ∧
    (r'.queriesAbout sub.service).length + r'.unfinished sub.service ≤
      (r.queriesAbout sub.service).length + r.unfinished sub.service ∧
    (r.results sub.service later).length + r'.unfinished sub.service ≤
      r.unfinished sub.service := by
  intro r r'
  have hbefore := (recorded_create hcreate).reaches_performAll before
  have hrecorded : r.Recorded options catalog := ((recorded_create hcreate).reaches hbefore).stop id
  have hunwatched : r.Unwatched sub.service :=
    ((listed_create hcreate).reaches hbefore).unwatched_stop hsub hlast hrefresh
  have hsingle : ∀ m ∈ later, m.isSingle = true := fun m hm => (hlater m hm).1
  have hqueries := queriesAbout_performAll hrecorded hsingle sub.service
  obtain ⟨hqueriesLeft, hresultsLeft⟩ := hunwatched.balanceAll hlater
  refine ⟨?quiet, heeds_of_endsAtWait, fun hresults => ?members,
    fun i t choice ht hservice => ?last, ?queries, hresultsLeft⟩
  case quiet =>
    rw [← hunwatched.idle_iff_heeds hlater, hqueries, List.append_right_eq_self]
  case members =>
    rw [instances_performAll hsingle, lastEntries?_of_results_eq_nil hresults]
    rfl
  case last =>
    have hi : i < r'.tasks.length := (List.getElem?_eq_some_iff.mp ht).1
    have hnow : r'.Unwatched t.service := hservice ▸ hunwatched.performAll hlater
    cases hover : t.isOver with
    | true =>
      rw [step_eq_carryOut ht, PollingTask.move_of_isOver hover, carryOut, ht]
      exact hover
    | false =>
      obtain ⟨t', _, hended, hset⟩ := hnow.step_eq ht hover choice
      rw [hset, List.getElem?_set_self hi]
      exact hended
  case queries =>
    rw [hqueries, List.length_append, Nat.add_assoc]
    exact Nat.add_le_add_left hqueriesLeft _

/-- A poller is stopped between two ticks. The next tick is due when it runs again, and it ends all
the same: nobody asks about the service, and the members stay. -/
theorem last_stop_quiet_iff_due :
    let catalog := Catalog.ofLists
      (Table.empty.set "users" [{ delay := 40, result := .ok [⟨"10.0.0.1", 80⟩] }])
    let start : PollingRegistry :=
      { options := { period := 100 }, catalog, state := State.new 64 }
    let before : List Action := [.watch 0 "users", .step 0 {}, .pass 40, .step 0 {}]
    let later : List Action := [.pass 60, .step 0 { endsAtWait := true }]
    let r := (start.performAll before).stop 0
    let r' := r.performAll later
    r'.queriesAbout "users" = [⟨0, "users", 0⟩] ∧ r.results "users" later = [] ∧
      r'.state.instances "users" = [⟨"users", "10.0.0.1:80"⟩] ∧
      (r'.tasks[0]?).map PollingTask.isOver = some true := by
  intro catalog start before later r r'
  have hcreate : create catalog { period := 100 } true = .ok start := rfl
  have hthere : ((start.performAll before).state.subscription? 0).map (·.service) =
      some "users" := by decide
  obtain ⟨sub, hsub, hservice⟩ := Option.map_eq_some_iff.mp hthere
  have hlast : ((start.performAll before).state.stop 0).1 = some 0 := by decide
  have hrefresh : ∀ t ∈ (start.performAll before).tasks, t.service = sub.service →
      t.isRefreshing = false := by
    have hpollers : (start.performAll before).tasks.all (!·.isRefreshing) = true := by decide
    intro t ht _
    have hpoller := List.all_eq_true.mp hpollers t ht
    rwa [Bool.not_eq_true'] at hpoller
  have hlater : ∀ m ∈ later, m.isSingle = true ∧ m.opens? ≠ some sub.service := by
    rw [hservice]
    decide
  obtain ⟨hquiet, hbiased, hmembers, _⟩ :=
    last_stop_quiet_iff hcreate before hsub hlast hrefresh hlater
  rw [hservice] at hquiet hbiased hmembers
  have hheeds : r.heeds "users" later = true := by
    refine hbiased fun i choice hstep => ?_
    rcases List.mem_cons.mp hstep with hpass | hstep
    · cases hpass
    · cases List.mem_singleton.mp hstep
      rfl
  obtain ⟨hqueries, hresults⟩ := hquiet.mpr hheeds
  have hbefore : r.queriesAbout "users" = [⟨0, "users", 0⟩] := by decide
  have hlisted : r.state.instances "users" = [⟨"users", "10.0.0.1:80"⟩] := by decide
  exact ⟨hqueries.trans hbefore, hresults, (hmembers hresults).trans hlisted, by decide⟩

/-- A poller is stopped before it runs for the first time. When it runs, it goes on: it asks about
the service, which has no watchers, and the members change. -/
theorem last_stop_not_quiet :
    let catalog := Catalog.ofLists
      (Table.empty.set "users" [{ result := .ok [⟨"10.0.0.1", 80⟩] }])
    let start : PollingRegistry :=
      { options := { period := 100 }, catalog, state := State.new 64 }
    let watched := start.performAll [.watch 0 "users"]
    let r := watched.perform (.stop 0)
    let r' := r.perform (.step 0 { endsAtWait := false, endsBeforeQuery := false })
    create catalog { period := 100 } true = .ok start ∧
      (watched.state.stop 0).1 = some 0 ∧ r.state.watcherCount "users" = 0 ∧
      r.queriesAbout "users" = [] ∧ r'.queriesAbout "users" = [⟨0, "users", 0⟩] ∧
      r.state.instances "users" = [] ∧
      r'.state.instances "users" = [⟨"users", "10.0.0.1:80"⟩] := by
  intro catalog start watched r r'
  exact ⟨rfl, by decide, by decide, by decide, by decide, by decide, by decide⟩

end PollingRegistry

end Roster
