import Roster.Proofs.Difference.Exact
import Roster.Proofs.Registry.Overtaking
import Roster.Proofs.Registry.Wanted

/-!
# Pollers that nobody needs any more

The poller of a service with a wanted subscription does not end (`Tended.keeps_polling`). If no
subscription to a service is wanted, the first change of its addresses leaves it without watchers
(`watcherCount_of_changes`). From then on each task of the service has one query left to make at
most (`queriesLeft_performAll`), and at the end of a query its poller leaves the map
(`Tended.released`).
-/

namespace Roster

namespace PollingTask

/-- Whether the next query of a task is still to come. -/
def mayAsk (t : PollingTask) : Bool :=
  match t.phase with
  | .fresh => true
  | .waiting _ => true
  | _ => false

variable {t : PollingTask} {period now : Nat} {choice : StepChoice} {next : Option Nat}

theorem mayAsk_of_move_eq_ask (h : t.move period now choice = .ask next) : t.mayAsk = true := by
  have hidle := isQuerying_of_move_eq_ask h
  unfold mayAsk
  cases hphase : t.phase with
  | fresh => rfl
  | waiting due => rfl
  | querying next' finish result =>
    rw [isQuerying, hphase] at hidle
    cases hidle
  | ended =>
    rw [move, hphase] at h
    cases h
  | failed =>
    rw [move, hphase] at h
    cases h

theorem mayAsk_of_isOver (h : t.isOver = true) : t.mayAsk = false := by
  unfold isOver at h
  unfold mayAsk
  split at h <;> simp_all

end PollingTask

namespace PollingRegistry

variable {options : PollingOptions} {r : PollingRegistry} {i : Nat} {t : PollingTask} {m : Action}
  {service : String}

/-! ## The map of pollers -/

theorem pollers_completeQuery (r : PollingRegistry) (i : Nat) (t : PollingTask)
    (next : Option Nat) (result : Except String (List CatalogEntry)) :
    (r.completeQuery i t next result).pollers = r.pollers ∨
      (r.completeQuery i t next result).pollers = r.pollers.erase t.service := by
  obtain ⟨pollers, phase, rank, waits, ⟨_, hpollers⟩, heq⟩ := completeQuery_eq r i t next result
  rw [heq]
  exact hpollers

theorem pollers_carryOut (r : PollingRegistry) (i : Nat) (t : PollingTask) (move : Move) :
    (r.carryOut i t move).pollers = r.pollers ∨
      (r.carryOut i t move).pollers = r.pollers.erase t.service := by
  cases move with
  | ask next =>
    show (r.startQuery i t next).pollers = _ ∨ (r.startQuery i t next).pollers = _
    rcases startQuery_cases r i t next with hover | ⟨_, hends⟩ | hgoes
    · rw [hover]
      exact pollers_completeQuery (r.asked i t) i t next _
    · rw [hends]
      exact Or.inl rfl
    · rw [hgoes]
      exact Or.inl rfl
  | complete next result => exact pollers_completeQuery r i t next result
  | _ => exact Or.inl rfl

theorem get?_erase_cases (pollers : Table Nat) (service service' : String) :
    (pollers.erase service').get? service = pollers.get? service ∨
      (pollers.erase service').get? service = none := by
  rw [Table.get?_erase]
  split
  · exact Or.inr rfl
  · exact Or.inl rfl

/-- Unless someone watches a service that has no poller, its entry on the map stays or goes. -/
theorem get?_pollers_perform (hm : m.isSingle = true)
    (hwatch : (∀ id, m ≠ .watch id service) ∨ (r.pollers.get? service).isSome = true) :
    (r.perform m).pollers.get? service = r.pollers.get? service ∨
      (r.perform m).pollers.get? service = none := by
  cases m with
  | watch id service' =>
    simp only [perform, subscribe, ensurePoller]
    split
    · exact Or.inl rfl
    · next hfree =>
      have hne : service' ≠ service := by
        rintro rfl
        rcases hwatch with hwatch | hentry
        · exact hwatch id rfl
        · exact hfree hentry
      refine Or.inl ((Table.get?_set r.pollers service' service _).trans ?_)
      exact if_neg hne
  | stop id =>
    rcases stop_cases r id with hstays | ⟨service', i, _, _, hcancels⟩
    · simp only [perform, hstays]
      exact Or.inl trivial
    · simp only [perform, hcancels, cancel]
      split <;> exact get?_erase_cases r.pollers service service'
  | beginRefresh service' =>
    obtain ⟨_, _, _, _, hpollers⟩ := beginRefresh_eq r service'
    exact Or.inl (congrArg (·.get? service) hpollers)
  | refresh service' => cases hm
  | step i choice =>
    simp only [perform]
    cases ht : r.tasks[i]? with
    | none =>
      rw [step_of_none ht]
      exact Or.inl rfl
    | some t =>
      rw [step_eq_carryOut ht]
      rcases pollers_carryOut r i t (t.move r.options.period r.now choice) with hsame | herase
      · exact Or.inl (congrArg (·.get? service) hsame)
      · rw [herase]
        exact get?_erase_cases r.pollers service t.service
  | advance ms => cases hm
  | _ => exact Or.inl rfl

theorem Tended.get?_pollers_ne (h : r.Tended) (ht : r.tasks[i]? = some t)
    (hover : t.isOver = true) : r.pollers.get? service ≠ some i := by
  intro hentry
  have hactive := (activeAt_iff ht).mp ((h.entry_iff service i).mp hentry)
  rw [PollingTask.isActive_of_isOver hover] at hactive
  cases hactive.2

/-! ## Changes of the members -/

/-- A moment changes the addresses of a service. -/
def Changes (r : PollingRegistry) (m : Action) (service : String) : Prop :=
  addressSet (r.state.instances service) ≠ addressSet ((r.perform m).state.instances service)

/-- What changes the addresses of a service is the end of a query about it. -/
theorem exists_entries_of_changes (hm : m.isSingle = true) (h : r.Changes m service) :
    ∃ entries, r.ending? m = some (service, .completed (.ok entries)) := by
  have hmembers := instances_perform_moment r hm service
  cases hends : r.ending? m with
  | none =>
    rw [hends] at hmembers
    exact absurd (congrArg addressSet hmembers.symm) h
  | some ending =>
    obtain ⟨service', e⟩ := ending
    rw [hends] at hmembers
    cases hentries : lastEntries? service [(service', e)] with
    | none =>
      have hkept : (r.perform m).state.instances service = r.state.instances service := by
        rw [hmembers, Option.toList_some, hentries]
        rfl
      exact absurd (congrArg addressSet hkept.symm) h
    | some entries =>
      unfold lastEntries? at hentries
      by_cases hservice : service' = service
      · simp only [hservice, List.filterMap_cons, List.filterMap_nil, if_true] at hentries ⊢
        cases he : e.entries? with
        | none =>
          rw [he] at hentries
          cases hentries
        | some found => exact ⟨found, by rw [Ending.completed_of_entries? he]⟩
      · simp [hservice] at hentries

/-- If no subscription to a service is wanted, the first change of its addresses leaves it without
watchers. -/
theorem watcherCount_of_changes (h : r.state.Orderly) (hm : m.isSingle = true)
    (hunwanted : r.state.isWanted service = false) (hchanges : r.Changes m service) :
    (r.perform m).state.watcherCount service = 0 := by
  obtain ⟨entries, hends⟩ := exists_entries_of_changes hm hchanges
  have hstate := r.state_perform hm
  rw [onState?_of_ending hends] at hstate
  unfold Changes at hchanges
  rw [hstate] at hchanges ⊢
  refine h.watcherCount_commit hunwanted fun hnone => hchanges ?_
  have hmembers := State.instances_commit r.state service service
    (entries.map fun e => ⟨service, e.address⟩)
  rw [if_pos rfl] at hmembers
  refine (difference_eq_nil_iff.mp hnone).trans (congrArg addressSet ?_)
  exact hmembers.symm

/-! ## Queries that are left -/

theorem isOver_of_completed (ht : r.tasks[i]? = some t) {choice : StepChoice}
    {service : String} {result : Except String (List CatalogEntry)}
    (hends : r.ending? (.step i choice) = some (service, .completed result))
    (hcount : (r.perform (.step i choice)).state.watcherCount service = 0) :
    ∃ t', (r.perform (.step i choice)).tasks[i]? = some t' ∧ t'.isOver = true := by
  have hi : i < r.tasks.length := (List.getElem?_eq_some_iff.mp ht).1
  obtain ⟨hmoves, rfl⟩ :
      r.moveEnding? t (t.move r.options.period r.now choice) = some (.completed result) ∧
        t.service = service := by
    rw [ending?, ht, Option.bind_some] at hends
    obtain ⟨e, hmoves, heq⟩ := Option.map_eq_some_iff.mp hends
    cases heq
    exact ⟨hmoves, rfl⟩
  have hstep : r.perform (.step i choice) =
      r.carryOut i t (t.move r.options.period r.now choice) := step_eq_carryOut ht choice
  rw [hstep] at hcount ⊢
  -- Whichever query it is, its end is the same.
  have hover (asker : PollingRegistry) (hsame : asker.tasks = r.tasks) (next : Option Nat)
      (result : Except String (List CatalogEntry))
      (hcount : (asker.completeQuery i t next result).state.watcherCount t.service = 0) :
      ∃ t', (asker.completeQuery i t next result).tasks[i]? = some t' ∧ t'.isOver = true := by
    have hidle : (asker.adopt t.service result).state.watcherCount t.service = 0 := by
      rw [state_adopt, ← state_completeQuery asker i t next result]
      exact hcount
    refine ⟨{ t with phase := .ended }, ?_, rfl⟩
    rw [tasks_completeQuery_of_unwatched hidle, hsame, List.getElem?_set_self hi]
  cases hmove : t.move r.options.period r.now choice with
  | stay =>
    rw [hmove] at hmoves
    cases hmoves
  | breakDown =>
    rw [hmove] at hmoves
    cases hmoves
  | giveUp =>
    rw [hmove] at hmoves
    simp only [moveEnding?] at hmoves
    split at hmoves <;> cases hmoves
  | ask next =>
    rw [hmove] at hmoves hcount
    replace hmoves : r.askEnding? t = some (.completed result) := hmoves
    have hdelay : (r.catalog.ask (r.backendName t.service)).1.delay = 0 := by
      unfold askEnding? at hmoves
      dsimp only at hmoves
      split at hmoves
      · next hdelay => exact hdelay
      · split at hmoves <;> cases hmoves
    simp only [carryOut, startQuery_of_instant i next hdelay] at hcount ⊢
    exact hover (r.asked i t) rfl next _ hcount
  | complete next result' =>
    rw [hmove] at hcount
    exact hover r rfl next result' hcount

/-- How many queries a task of a service without watchers has left to make. -/
def queriesLeft (r : PollingRegistry) (i : Nat) : Nat := (r.tasks[i]?.any (·.mayAsk)).toNat

def queriesOf (r : PollingRegistry) (i : Nat) (moments : List Action) : Nat :=
  (r.queriesIn moments).countP (·.2.task == i)

/-- Whatever happens but a step of its own, a task stands where it stood, and makes no query. -/
theorem queriesLeft_perform_of_ne (hm : m.isSingle = true) (hperiod : 0 < r.options.period)
    (ht : r.tasks[i]? = some t) (hne : ∀ choice, m ≠ .step i choice) :
    r.queriesOf i [m] = 0 ∧ (r.perform m).queriesLeft i = r.queriesLeft i := by
  have hi : i < r.tasks.length := (List.getElem?_eq_some_iff.mp ht).1
  have happend (t' : PollingTask) : (r.tasks ++ [t'])[i]? = r.tasks[i]? :=
    List.getElem?_append_left hi
  have hsame {r' : PollingRegistry} (htasks : r'.tasks[i]? = r.tasks[i]?) :
      r'.queriesLeft i = r.queriesLeft i := by
    rw [queriesLeft, htasks]
    rfl
  cases m with
  | watch id service =>
    refine ⟨rfl, hsame ?_⟩
    simp only [perform, subscribe, ensurePoller]
    split
    · rfl
    · exact happend _
  | stop id =>
    refine ⟨rfl, ?_⟩
    rcases stop_cases r id with hstays | ⟨service, j, _, _, hcancels⟩
    · simp only [perform, hstays]
      exact hsame rfl
    · simp only [perform, hcancels, queriesLeft, getElem?_tasks_cancel, ht, Option.map_some,
        Option.any_some]
      -- A task that is cancelled has as many queries left as before.
      split <;> rfl
  | beginRefresh service =>
    obtain ⟨t', _, _, htasks, _⟩ := beginRefresh_eq r service
    refine ⟨?_, hsame ((congrArg (·[i]?) htasks).trans (happend t'))⟩
    have hout : (r.tasks.length == i) = false := beq_eq_false_iff_ne.mpr (Nat.ne_of_gt hi)
    simp [queriesOf, queriesIn, query?, hout]
  | refresh service => cases hm
  | step j choice =>
    have hji : j ≠ i := by
      rintro rfl
      exact hne choice rfl
    refine ⟨?_, hsame (getElem?_tasks_step hperiod hji choice)⟩
    have hout : (j == i) = false := beq_eq_false_iff_ne.mpr hji
    cases hj : r.tasks[j]? with
    | none => simp [queriesOf, queriesIn, query?, hj]
    | some t' =>
      simp only [queriesOf, queriesIn, query?, hj, Option.bind_some, List.append_nil]
      cases t'.move r.options.period r.now choice <;> simp [moveQuery?, hout]
  | advance ms => cases hm
  | _ => exact ⟨rfl, rfl⟩

/-- A step of a task of a service without watchers takes the query that the task had left, if it
makes one, and leaves none to a task whose query is over. -/
theorem queriesLeft_step (ht : r.tasks[i]? = some t)
    (hidle : r.state.watcherCount t.service = 0) (choice : StepChoice) :
    r.queriesOf i [.step i choice] + (r.perform (.step i choice)).queriesLeft i ≤
      r.queriesLeft i := by
  have hi : i < r.tasks.length := (List.getElem?_eq_some_iff.mp ht).1
  have hleft (t' : PollingTask) (hdone : t'.mayAsk = false) {r' : PollingRegistry}
      (hset : r'.tasks = r.tasks.set i t') : r'.queriesLeft i = 0 := by
    rw [queriesLeft, hset, List.getElem?_set_self hi, Option.any_some, hdone]
    rfl
  have hquery : r.queriesOf i [.step i choice] =
      (r.moveQuery? i t (t.move r.options.period r.now choice)).toList.length := by
    simp only [queriesOf, queriesIn, query?, ht, Option.bind_some, List.append_nil]
    cases t.move r.options.period r.now choice <;> simp [moveQuery?]
  have hstep : r.perform (.step i choice) =
      r.carryOut i t (t.move r.options.period r.now choice) := step_eq_carryOut ht choice
  rw [hquery, hstep]
  cases hmove : t.move r.options.period r.now choice with
  | stay => exact Nat.le_of_eq (Nat.zero_add _)
  | breakDown =>
    rw [hleft { t with phase := .failed } rfl rfl]
    exact Nat.zero_le _
  | giveUp =>
    rw [hleft { t with phase := .ended } rfl rfl]
    exact Nat.zero_le _
  | ask next =>
    have hmay : r.queriesLeft i = 1 := by
      rw [queriesLeft, ht, Option.any_some, PollingTask.mayAsk_of_move_eq_ask hmove]
      rfl
    have hnone : (r.startQuery i t next).queriesLeft i = 0 := by
      rcases startQuery_cases r i t next with hover | ⟨_, hends⟩ | hgoes
      · rw [hover]
        exact hleft _ rfl (tasks_completeQuery_of_idle (r := r.asked i t) hidle i next _)
      · rw [hends]
        exact hleft _ rfl rfl
      · rw [hgoes]
        exact hleft _ rfl rfl
    show 1 + (r.startQuery i t next).queriesLeft i ≤ r.queriesLeft i
    rw [hmay, hnone]
  | complete next result =>
    have hnone : (r.completeQuery i t next result).queriesLeft i = 0 :=
      hleft _ rfl (tasks_completeQuery_of_idle hidle i next result)
    show 0 + (r.completeQuery i t next result).queriesLeft i ≤ r.queriesLeft i
    rw [hnone]
    exact Nat.zero_le _

theorem queriesLeft_perform (hm : m.isSingle = true) (hperiod : 0 < r.options.period)
    (ht : r.tasks[i]? = some t) (hidle : r.state.watcherCount t.service = 0) :
    r.queriesOf i [m] + (r.perform m).queriesLeft i ≤ r.queriesLeft i := by
  by_cases hstep : ∃ choice, m = .step i choice
  · obtain ⟨choice, rfl⟩ := hstep
    exact queriesLeft_step ht hidle choice
  · obtain ⟨hnone, hsame⟩ :=
      queriesLeft_perform_of_ne hm hperiod ht fun choice heq => hstep ⟨choice, heq⟩
    rw [hnone, hsame, Nat.zero_add]

theorem queriesOf_cons (r : PollingRegistry) (i : Nat) (m : Action) (rest : List Action) :
    r.queriesOf i (m :: rest) = r.queriesOf i [m] + (r.perform m).queriesOf i rest := by
  simp only [queriesOf, queriesIn, List.countP_append, List.append_nil]

/-- A task of a service that is without watchers and is not watched again makes no more queries than
it has left. -/
theorem queriesLeft_performAll (h : r.Tended) (ht : r.tasks[i]? = some t)
    (hservice : t.service = service) (hidle : r.state.watcherCount service = 0)
    {rest : List Action} (hrest : ∀ m ∈ rest, m.isSingle = true ∧ ∀ id, m ≠ .watch id service) :
    r.queriesOf i rest + (r.performAll rest).queriesLeft i ≤ r.queriesLeft i := by
  induction rest generalizing r t with
  | nil => exact Nat.le_of_eq (Nat.zero_add _)
  | cons m rest ih =>
    obtain ⟨⟨hm, hwatch⟩, hrest⟩ := List.forall_mem_cons.mp hrest
    obtain ⟨t', ht', hservice'⟩ := getElem?_tasks_perform hm ht
    have hcount := watcherCount_perform_moment (r := r) hm hwatch
    have hfirst := queriesLeft_perform hm h.period_pos ht (hservice ▸ hidle)
    have hlater := ih (h.perform m) ht' (hservice'.trans hservice)
      (Nat.le_zero.mp (hidle ▸ hcount)) hrest
    rw [queriesOf_cons, performAll_cons]
    omega

/-! ## After the last change -/

theorem stop_of_unwatched (h : r.state.Orderly) {id : Nat} {sub : Subscription}
    (hsub : r.state.subscription? id = some sub) (hcount : r.state.watcherCount sub.service = 0) :
    r.stop id = { r with state := r.state.noted id } := by
  unfold stop
  rw [hsub]
  dsimp only
  rw [h.stop_of_unwatched hsub hcount]

theorem watcherCount_performAll_eq_zero (hcount : r.state.watcherCount service = 0)
    {moments : List Action}
    (hmoments : ∀ m ∈ moments, m.isSingle = true ∧ ∀ id, m ≠ .watch id service) :
    (r.performAll moments).state.watcherCount service = 0 := by
  induction moments generalizing r with
  | nil => exact hcount
  | cons m rest ih =>
    obtain ⟨⟨hm, hwatch⟩, hrest⟩ := List.forall_mem_cons.mp hmoments
    have hle := watcherCount_perform_moment (r := r) hm hwatch
    exact ih (Nat.le_zero.mp (hcount ▸ hle)) hrest

theorem get?_pollers_performAll_eq_none (hentry : r.pollers.get? service = none)
    {moments : List Action}
    (hmoments : ∀ m ∈ moments, m.isSingle = true ∧ ∀ id, m ≠ .watch id service) :
    (r.performAll moments).pollers.get? service = none := by
  induction moments generalizing r with
  | nil => exact hentry
  | cons m rest ih =>
    obtain ⟨⟨hm, hwatch⟩, hrest⟩ := List.forall_mem_cons.mp hmoments
    refine ih ?_ hrest
    rcases get?_pollers_perform (r := r) hm (Or.inl hwatch) with hsame | hgone
    · exact hsame.trans hentry
    · exact hgone

theorem Tended.get?_pollers_of_completed (h : r.Tended) {choice : StepChoice}
    {result : Except String (List CatalogEntry)} (hentry : r.pollers.get? service = some i)
    (hends : r.ending? (.step i choice) = some (service, .completed result))
    (hcount : (r.perform (.step i choice)).state.watcherCount service = 0) :
    (r.perform (.step i choice)).pollers.get? service = none := by
  obtain ⟨t, ht, _⟩ := (h.entry_iff service i).mp hentry
  obtain ⟨t', ht', hover⟩ := isOver_of_completed ht hends hcount
  rcases get?_pollers_perform (r := r) (m := .step i choice) rfl (Or.inl nofun)
    with hsame | hgone
  · exact absurd (hsame.trans hentry) ((h.perform _).get?_pollers_ne ht' hover)
  · exact hgone

/-- What a moment leaves of the pollers of a service that changes the service's addresses, when some
more moments have passed. -/
structure Released (r : PollingRegistry) (m : Action) (rest : List Action) (service : String) :
    Prop where
  /-- The task whose query made the change makes no query again. -/
  quiet : ∀ i choice, m = .step i choice → (r.perform m).queriesOf i rest = 0
  /-- If it was the poller of the service, it has left the map. -/
  gone : ∀ i choice, m = .step i choice → r.pollers.get? service = some i →
    ((r.perform m).performAll rest).pollers.get? service = none
  /-- Any task of the service makes one more query at most, and none besides one under way. -/
  last : ∀ i t, (r.perform m).tasks[i]? = some t → t.service = service →
    (r.perform m).queriesOf i rest ≤ 1 ∧
      (t.isQuerying = true → (r.perform m).queriesOf i rest = 0)
  /-- When a query of the poller is over, the poller has left the map. -/
  leaves : ∀ i choice result earlier later, rest = earlier ++ .step i choice :: later →
    ((r.perform m).performAll earlier).pollers.get? service = some i →
    ((r.perform m).performAll earlier).ending? (.step i choice) =
      some (service, .completed result) →
    ((r.perform m).performAll rest).pollers.get? service = none
  /-- A handle of a subscription to the service does no more than note that it was used. -/
  idle : ∀ id sub, ((r.perform m).performAll rest).state.subscription? id = some sub →
    sub.service = service →
    ((r.perform m).performAll rest).perform (.stop id) =
      { (r.perform m).performAll rest with
        state := ((r.perform m).performAll rest).state.noted id }

theorem Tended.released (h : r.Tended) (horderly : r.state.Orderly) {rest : List Action}
    (hafter : ((r.perform m).performAll rest).state.Orderly) (hm : m.isSingle = true)
    (hrest : ∀ m' ∈ rest, m'.isSingle = true ∧ ∀ id, m' ≠ .watch id service)
    (hunwanted : r.state.isWanted service = false) (hchanges : r.Changes m service) :
    r.Released m rest service := by
  have hidle : (r.perform m).state.watcherCount service = 0 :=
    watcherCount_of_changes horderly hm hunwanted hchanges
  obtain ⟨entries, hends⟩ := exists_entries_of_changes hm hchanges
  have hleft {i : Nat} {t : PollingTask} (ht : (r.perform m).tasks[i]? = some t)
      (hservice : t.service = service) :
      (r.perform m).queriesOf i rest ≤ (t.mayAsk).toNat := by
    have hall := queriesLeft_performAll (h.perform m) ht hservice hidle hrest
    refine Nat.le_trans (Nat.le_trans (Nat.le_add_right _ _) hall) ?_
    rw [queriesLeft, ht]
    exact Nat.le_refl _
  refine ⟨fun i choice hstep => ?quiet, fun i choice hstep hentry => ?gone,
    fun i t ht hservice => ?last, fun i choice result earlier later hsplit hentry hover => ?leaves,
    fun id sub hsub hservice => ?idle⟩
  case quiet =>
    subst hstep
    obtain ⟨t, ht, hservice⟩ : ∃ t, r.tasks[i]? = some t ∧ t.service = service := by
      obtain ⟨t, ht, hmap⟩ := Option.bind_eq_some_iff.mp hends
      obtain ⟨e, _, heq⟩ := Option.map_eq_some_iff.mp hmap
      cases heq
      exact ⟨t, ht, rfl⟩
    obtain ⟨t', ht', hover⟩ := isOver_of_completed ht hends hidle
    obtain ⟨t'', ht'', hservice'⟩ := getElem?_tasks_perform hm ht
    obtain rfl : t' = t'' := Option.some.inj (ht'.symm.trans ht'')
    have hnone := hleft ht' (hservice'.trans hservice)
    rw [PollingTask.mayAsk_of_isOver hover] at hnone
    exact Nat.le_zero.mp hnone
  case gone =>
    subst hstep
    exact get?_pollers_performAll_eq_none (h.get?_pollers_of_completed hentry hends hidle) hrest
  case last =>
    refine ⟨Nat.le_trans (hleft ht hservice) (Bool.toNat_le _), fun hquerying => ?_⟩
    have hnone := hleft ht hservice
    obtain ⟨next, finish, result, hphase⟩ := PollingTask.phase_of_isQuerying hquerying
    rw [PollingTask.mayAsk, hphase] at hnone
    exact Nat.le_zero.mp hnone
  case leaves =>
    subst hsplit
    have hearlier := fun m' hm' => hrest m' (List.mem_append_left _ hm')
    have hlater := fun m' hm' => hrest m' (List.mem_append_right _ (List.mem_cons_of_mem _ hm'))
    have hstep := hrest (.step i choice) (List.mem_append_right _ List.mem_cons_self)
    have hidle' := watcherCount_performAll_eq_zero hidle hearlier
    have hcount := watcherCount_perform_moment (r := (r.perform m).performAll earlier) hstep.1
      hstep.2
    rw [performAll_append, performAll_cons]
    refine get?_pollers_performAll_eq_none ?_ hlater
    exact ((h.perform m).performAll earlier).get?_pollers_of_completed hentry hover
      (Nat.le_zero.mp (hidle' ▸ hcount))
  case idle =>
    subst hservice
    exact stop_of_unwatched hafter hsub (watcherCount_performAll_eq_zero hidle hrest)

/-! ## Runs -/

/-- As long as some subscription to a service is wanted, the service keeps its poller. -/
theorem Tended.keeps_polling (h : r.Tended) {later : List Action}
    (hlater : ∀ m ∈ later, m.isSingle = true)
    (hwatched : ∀ seen, seen <+: later → 0 < (r.performAll seen).state.watcherCount service) :
    ∃ i, ∀ seen, seen <+: later → (r.performAll seen).pollers.get? service = some i ∧
      ActiveAt (r.performAll seen).tasks service i := by
  have hhere := h.watched service (hwatched [] List.nil_prefix)
  obtain ⟨i, hentry⟩ := Option.isSome_iff_exists.mp hhere
  induction later generalizing r with
  | nil =>
    refine ⟨i, fun seen hseen => ?_⟩
    obtain rfl := List.prefix_nil.mp hseen
    exact ⟨hentry, (h.entry_iff service i).mp hentry⟩
  | cons m rest ih =>
    obtain ⟨hm, hrest⟩ := List.forall_mem_cons.mp hlater
    have hnext (seen : List Action) (hseen : seen <+: rest) :
        0 < ((r.perform m).performAll seen).state.watcherCount service :=
      hwatched (m :: seen) (List.cons_prefix_cons.mpr ⟨rfl, hseen⟩)
    have hsome := (h.perform m).watched service (hnext [] List.nil_prefix)
    have hentry' : (r.perform m).pollers.get? service = some i := by
      rcases get?_pollers_perform hm (Or.inr hhere) with hsame | hgone
      · exact hsame.trans hentry
      · rw [hgone] at hsome
        cases hsome
    obtain ⟨j, hall⟩ := ih (h.perform m) hrest hnext hsome hentry'
    obtain rfl : j = i := Option.some.inj ((hall [] List.nil_prefix).1.symm.trans hentry')
    refine ⟨j, fun seen hseen => ?_⟩
    rcases List.prefix_cons_iff.mp hseen with rfl | ⟨seen', rfl, hseen'⟩
    · exact ⟨hentry, (h.entry_iff service j).mp hentry⟩
    · exact hall seen' hseen'

/-- Take any run of a registry with a positive period in which no number is given twice. If at some
moment no subscription to a service is wanted, and nobody watches the service later, the first
query of its poller that changes its addresses is the poller's last: the map has no entry for the
service from then on, and its handles do nothing any more. If the change comes from a refresh, or
from anybody else, the poller makes one more query at most, and the map has no entry when a query of
it is over. But as long as some subscription to the service is wanted, its poller stays on the map,
neither over nor cancelled. -/
theorem reclaimed_exact {catalog : Catalog} {inRuntime : Bool} {start : PollingRegistry}
    (hcreate : create catalog options inRuntime = .ok start) (hperiod : 0 < options.period)
    (before later : List Action) (hlater : ∀ m ∈ later, m.isSingle = true)
    (hids : ((watched (before ++ later)).map (·.1)).Nodup) (service : String) :
    let r := start.performAll before
    (r.state.isWanted service = false → (∀ m ∈ later, ∀ id, m ≠ .watch id service) →
      ∀ unchanged m rest, later = unchanged ++ m :: rest →
        (r.performAll unchanged).Changes m service →
        (r.performAll unchanged).Released m rest service) ∧
    ((∀ seen, seen <+: later → (r.performAll seen).state.isWanted service = true) →
      ∃ i, ∀ seen, seen <+: later → (r.performAll seen).pollers.get? service = some i ∧
        ActiveAt (r.performAll seen).tasks service i) := by
  intro r
  have hrecorded : r.Recorded options catalog := (recorded_create hcreate).performActions before
  have htended : r.Tended := (tended_create hcreate hperiod).performAll before
  obtain ⟨hstart, hnone⟩ := orderly_create hcreate
  rw [watched_append] at hids
  have hbefore : ((start.state.labels ++ watched before).map (·.1)).Nodup := by
    rw [hnone, List.nil_append]
    rw [List.map_append] at hids
    exact hids.of_append_left
  obtain ⟨horderly, hlabels⟩ := orderly_performAll hstart (recorded_create hcreate) hbefore
  rw [hnone, List.nil_append] at hlabels
  rw [← hlabels] at hids
  have hseen {seen : List Action} (hpart : seen <+: later) :
      ((r.state.labels ++ watched seen).map (·.1)).Nodup := by
    obtain ⟨unseen, rfl⟩ := hpart
    rw [watched_append, ← List.append_assoc, List.map_append] at hids
    exact hids.of_append_left
  have horderly' {seen : List Action} (hpart : seen <+: later) :
      (r.performAll seen).state.Orderly :=
    (orderly_performAll horderly hrecorded (hseen hpart)).1
  constructor
  · rintro hunwanted hwatch unchanged m rest rfl hchanges
    have hquiet : ∀ m' ∈ unchanged ++ m :: rest,
        m'.isSingle = true ∧ ∀ id, m' ≠ .watch id service :=
      fun m' hm' => ⟨hlater m' hm', hwatch m' hm'⟩
    have hpart : unchanged <+: unchanged ++ m :: rest := List.prefix_append _ _
    have hafter := horderly' (List.prefix_refl (unchanged ++ m :: rest))
    rw [performAll_append, performAll_cons] at hafter
    refine (htended.performAll unchanged).released (horderly' hpart) hafter (hlater m (by simp))
      (fun m' hm' => hquiet m' (List.mem_append_right _ (List.mem_cons_of_mem _ hm'))) ?_ hchanges
    exact isWanted_performAll_eq_false horderly hrecorded (hseen hpart)
      (fun m' hm' => hquiet m' (List.mem_append_left _ hm')) hunwanted
  · intro hwanted
    exact htended.keeps_polling hlater fun seen hpart =>
      (horderly' hpart).watcherCount_pos (hwanted seen hpart)

/-- One subscription is stopped and the receiver of the other one is gone, which the second query
does not show, because it changes nothing. The third query changes the addresses and is the last.
-/
theorem reclaimed_exact_third_query :
    let catalog := Catalog.ofLists (Table.empty.set "users"
      [{ delay := 40, result := .ok [⟨"a", 80⟩] }, { delay := 20, result := .ok [⟨"a", 80⟩] },
        { delay := 10, result := .ok [⟨"b", 80⟩] }])
    let start : PollingRegistry :=
      { options := { period := 100 }, catalog, state := State.new 64 }
    let before : List Action :=
      [.watch 0 "users", .watch 1 "users", .step 0 {}, .pass 40, .step 0 {}, .stop 0,
        .dropReceiver 1]
    let unchanged : List Action :=
      [.pass 60, .step 0 {}, .pass 20, .step 0 {}, .pass 80, .step 0 {}, .pass 10]
    let rest : List Action := [.beginRefresh "users", .pass 90, .step 0 {}]
    let r := (start.performAll before).performAll unchanged
    let r' := (r.perform (.step 0 {})).performAll rest
    r.queries.length = 3 ∧ r.state.watcherCount "users" = 1 ∧
      r.pollers.get? "users" = some 0 ∧ r.Changes (.step 0 {}) "users" ∧
      (r.perform (.step 0 {})).queriesOf 0 rest = 0 ∧ r'.pollers.get? "users" = none ∧
      r'.perform (.stop 1) = { r' with state := r'.state.noted 1 } := by
  intro catalog start before unchanged rest r r'
  have hcreate : create catalog { period := 100 } true = .ok start := rfl
  have hqueries : r.queries.length = 3 := by decide
  have hcount : r.state.watcherCount "users" = 1 := by decide
  have hentry : r.pollers.get? "users" = some 0 := by decide
  have hchanges : r.Changes (.step 0 {}) "users" := by
    unfold Changes
    decide
  have hwatch : ∀ m ∈ unchanged ++ .step 0 {} :: rest, ∀ id, m ≠ .watch id "users" := by
    rintro m hm id rfl
    simp [unchanged, rest] at hm
  obtain ⟨hreclaimed, _⟩ :=
    reclaimed_exact hcreate (by decide) before (unchanged ++ .step 0 {} :: rest) (by decide)
      (by decide) "users"
  have hreleased := hreclaimed (by decide) hwatch unchanged (.step 0 {}) rest rfl hchanges
  have hsub : (r'.state.subscription? 1).map (·.service) = some "users" := by decide
  obtain ⟨sub, hsub, hservice⟩ := Option.map_eq_some_iff.mp hsub
  exact ⟨hqueries, hcount, hentry, hchanges, hreleased.quiet 0 {} rfl,
    hreleased.gone 0 {} rfl hentry, hreleased.idle 1 sub hsub hservice⟩

end PollingRegistry

end Roster
