import Roster.Proofs.Registry.Tasks

/-!
# Active pollers are listed

Whatever the period, a poller that is neither over nor cancelled is on the map of pollers
(`Listed`). With a period of zero the map may also list pollers that broke down, so that this is one
half of what holds of the map otherwise. A poller that is not listed is over or cancelled
(`Listed.over_or_cancelled`).
-/

namespace Roster

namespace PollingTask

variable {t : PollingTask} {period now : Nat} {choice : StepChoice}

def isRefreshing (t : PollingTask) : Bool :=
  match t.phase with
  | .querying none _ _ => true
  | _ => false

theorem isPolling_of_not_isOver (hlive : t.isOver = false) (hpoller : t.isRefreshing = false) :
    t.isPolling = true := by
  unfold isOver at hlive
  unfold isRefreshing at hpoller
  unfold isPolling
  cases hphase : t.phase with
  | fresh => rfl
  | waiting due => rfl
  | querying next finish result =>
    rw [hphase] at hpoller
    cases next with
    | none => cases hpoller
    | some due => rfl
  | ended =>
    rw [hphase] at hlive
    cases hlive
  | failed =>
    rw [hphase] at hlive
    cases hlive

theorem isPolling_of_move_eq_ask {next : Option Nat}
    (h : t.move period now choice = .ask next) : t.isPolling = true := by
  have hidle := isQuerying_of_move_eq_ask h
  unfold isPolling
  cases hphase : t.phase with
  | fresh => rfl
  | waiting due => rfl
  | querying next' finish result =>
    rw [isQuerying, hphase] at hidle
    cases hidle
  | ended =>
    rw [move, hphase] at h
    cases h
  | failed =>
    rw [move, hphase] at h
    cases h

end PollingTask

namespace PollingRegistry

variable {options : PollingOptions} {r : PollingRegistry} {i : Nat} {t t' : PollingTask}
  {service : String} {m : Action}

/-- Every active poller is on the map. -/
def Listed (r : PollingRegistry) : Prop :=
  ∀ service i, ActiveAt r.tasks service i → r.pollers.get? service = some i

/-- A task may change as long as it does not become an active poller. -/
theorem Listed.setTask (h : r.Listed) (ht : r.tasks[i]? = some t)
    (hservice : t'.service = t.service) (hactive : t'.isActive = true → t.isActive = true) :
    (r.setTask i t').Listed := by
  intro service j hj
  refine h service j ?_
  replace hj : ActiveAt (r.tasks.set i t') service j := hj
  by_cases hij : i = j
  · subst hij
    rw [activeAt_set_self ht, hservice] at hj
    exact (activeAt_iff ht).mpr ⟨hj.1, hactive hj.2⟩
  · exact (activeAt_set_of_ne hij).mp hj

theorem Listed.retire (h : r.Listed) (ht : r.tasks[i]? = some t)
    (hentry : r.pollers.get? service = some i) (hactive : t'.isActive = false) :
    (({ r with pollers := r.pollers.erase service } : PollingRegistry).setTask i t').Listed := by
  intro service' j hj
  replace hj : ActiveAt (r.tasks.set i t') service' j := hj
  show (r.pollers.erase service).get? service' = some j
  by_cases hij : i = j
  · subst hij
    rw [activeAt_set_self ht, hactive] at hj
    cases hj.2
  · have hother := h service' j ((activeAt_set_of_ne hij).mp hj)
    rw [Table.get?_erase, if_neg]
    · exact hother
    · rintro rfl
      exact hij (Option.some.inj (hentry.symm.trans hother))

theorem Listed.congr (h : r.Listed) {r' : PollingRegistry} (hpollers : r'.pollers = r.pollers)
    (htasks : r'.tasks = r.tasks) : r'.Listed := by
  unfold Listed
  rw [hpollers, htasks]
  exact h

theorem Listed.push (h : r.Listed) (hactive : t.isActive = false) :
    ({ r with tasks := r.tasks ++ [t] } : PollingRegistry).Listed := by
  intro service j hj
  rcases activeAt_append.mp hj with hold | ⟨_, _, hnew⟩
  · exact h service j hold
  · rw [hactive] at hnew
    cases hnew

theorem Listed.finishTask (h : r.Listed) (ht : r.tasks[i]? = some t) :
    (r.finishTask i t).Listed :=
  h.setTask ht rfl nofun

theorem Listed.suspend (h : r.Listed) (ht : r.tasks[i]? = some t) {phase : TaskPhase}
    (hpolling : ({ t with phase } : PollingTask).isPolling = true → t.isPolling = true) :
    (r.suspend i t phase).Listed := by
  have hset : (r.setTask i { t with phase, rank := r.waits }).Listed := by
    refine h.setTask ht rfl fun hactive => ?_
    have hboth := (Bool.and_eq_true _ _).mp hactive
    exact (Bool.and_eq_true _ _).mpr ⟨hpolling hboth.1, hboth.2⟩
  exact hset.congr rfl rfl

theorem Listed.completeQuery (h : r.Listed) (ht : r.tasks[i]? = some t) {next : Option Nat}
    (hnext : next.isSome = true → t.isPolling = true)
    (result : Except String (List CatalogEntry)) : (r.completeQuery i t next result).Listed := by
  obtain ⟨catalog, state, hadopt, _⟩ := adopt_eq r result t.service
  have hadopted : (r.adopt t.service result).Listed := by
    rw [hadopt]
    exact h.congr rfl rfl
  have htask : (r.adopt t.service result).tasks[i]? = some t := by
    rw [hadopt]
    exact ht
  rcases completeQuery_cases r i t next result with
    ⟨rfl, hover⟩ | ⟨due, rfl, ⟨_, hover⟩ | hgoes⟩
  · rw [hover]
    exact hadopted.finishTask htask
  · rw [hover]
    unfold release
    split
    · next hentry => exact hadopted.retire htask hentry rfl
    · exact hadopted.finishTask htask
  · rw [hgoes]
    exact hadopted.suspend htask fun _ => hnext rfl

theorem Listed.startQuery (h : r.Listed) (ht : r.tasks[i]? = some t) {next : Option Nat}
    (hnext : next.isSome = true → t.isPolling = true) : (r.startQuery i t next).Listed := by
  have hasked : (r.asked i t).Listed := h.congr rfl rfl
  rcases startQuery_cases r i t next with hover | ⟨_, hends⟩ | hgoes
  · rw [hover]
    exact hasked.completeQuery ht hnext _
  · rw [hends]
    exact hasked.finishTask ht
  · rw [hgoes]
    exact hasked.suspend ht hnext

theorem Listed.step (h : r.Listed) (i : Nat) (choice : StepChoice) : (r.step i choice).Listed := by
  cases ht : r.tasks[i]? with
  | none =>
    rw [step_of_none ht]
    exact h
  | some t =>
    rw [step_eq_carryOut ht]
    cases hmove : t.move r.options.period r.now choice with
    | stay => exact h
    | breakDown => exact h.setTask ht rfl nofun
    | giveUp => exact h.finishTask ht
    | ask next => exact h.startQuery ht fun _ => PollingTask.isPolling_of_move_eq_ask hmove
    | complete next result =>
      obtain ⟨finish, hphase⟩ := PollingTask.phase_of_move_eq_complete hmove
      refine h.completeQuery ht (fun hnext => ?_) result
      rw [PollingTask.isPolling, hphase]
      exact hnext

theorem Listed.spawn (h : r.Listed) (hfree : r.pollers.get? service = none) :
    (r.spawn service).Listed := by
  intro service' j hj
  show (r.pollers.set service r.tasks.length).get? service' = some j
  rw [Table.get?_set]
  rcases activeAt_append.mp hj with hold | ⟨rfl, rfl, _⟩
  · have hentry := h service' j hold
    rw [if_neg]
    · exact hentry
    · rintro rfl
      rw [hfree] at hentry
      cases hentry
  · exact if_pos rfl

theorem Listed.subscribe (h : r.Listed) (id : Nat) (service : String) :
    (r.subscribe id service).Listed := by
  have hsubscribed : ({ r with state := r.state.subscribe id service } :
    PollingRegistry).Listed := h.congr rfl rfl
  unfold PollingRegistry.subscribe ensurePoller
  split
  · exact hsubscribed
  · next hfree =>
    rw [Bool.not_eq_true, Option.isSome_eq_false_iff, Option.isNone_iff_eq_none] at hfree
    exact hsubscribed.spawn hfree

theorem Listed.stop (h : r.Listed) (id : Nat) : (r.stop id).Listed := by
  rcases stop_cases r id with hstays | ⟨service, i, _, hentry, hcancels⟩
  · rw [hstays]
    exact h.congr rfl rfl
  · rw [hcancels, cancel]
    have hstate : ({ r with state := (r.state.stop id).2 } : PollingRegistry).Listed :=
      h.congr rfl rfl
    split
    · next t ht =>
      exact hstate.retire ht hentry (PollingTask.isActive_of_isCancelled rfl)
    · next hnone =>
      intro service' j hj
      have hentry' := h service' j hj
      show (r.pollers.erase service).get? service' = some j
      rw [Table.get?_erase, if_neg]
      · exact hentry'
      · rintro rfl
        obtain rfl : i = j := Option.some.inj (hentry.symm.trans hentry')
        obtain ⟨t, ht, _⟩ := hj
        cases ht.symm.trans hnone

theorem Listed.beginRefresh (h : r.Listed) (service : String) :
    (r.beginRefresh service).Listed := by
  obtain ⟨t', _, hactive, htasks, hpollers⟩ := beginRefresh_eq r service
  exact (h.push hactive).congr hpollers htasks

theorem Listed.perform (h : r.Listed) (hm : m.isSingle = true) : (r.perform m).Listed := by
  cases m with
  | watch id service => exact h.subscribe id service
  | stop id => exact h.stop id
  | receive id limit => exact h.congr rfl rfl
  | dropReceiver id => exact h.congr rfl rfl
  | dropHandle id => exact h
  | beginRefresh service => exact h.beginRefresh service
  | refresh service => cases hm
  | step i choice => exact h.step i choice
  | pass ms => exact h.congr rfl rfl
  | advance ms => cases hm

theorem Listed.over_or_cancelled (h : r.Listed) (ht : r.tasks[i]? = some t)
    (hpoller : t.isRefreshing = false) (hout : r.pollers.get? t.service ≠ some i) :
    t.isOver = true ∨ t.isCancelled = true := by
  cases hover : t.isOver with
  | true => exact Or.inl rfl
  | false =>
    cases hcancelled : t.isCancelled with
    | true => exact Or.inr rfl
    | false =>
      have hpolling := PollingTask.isPolling_of_not_isOver hover hpoller
      have hactive : t.isActive = true := by
        rw [PollingTask.isActive, hpolling, hcancelled]
        rfl
      exact absurd (h t.service i ⟨t, ht, rfl, hactive⟩) hout

theorem listed_create {catalog : Catalog} {inRuntime : Bool}
    (hcreate : create catalog options inRuntime = .ok r) : r.Listed := by
  unfold create at hcreate
  split at hcreate
  · cases hcreate
    exact fun service i hactive => absurd hactive.lt_length (Nat.not_lt_zero i)
  · cases hcreate

theorem Listed.reaches (h : r.Listed) {r' : PollingRegistry} (hr : r.Reaches r') : r'.Listed := by
  obtain ⟨moments, hmoments, rfl⟩ := hr
  induction moments generalizing r with
  | nil => exact h
  | cons m rest ih =>
    rw [List.forall_mem_cons] at hmoments
    exact ih (h.perform hmoments.1) hmoments.2

end PollingRegistry

end Roster
