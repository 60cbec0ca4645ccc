import Roster.Proofs.Registry.Moments

/-!
# Queries are accounted for

The invariant `Recorded` says that every query was made by a task, about the name of the task's
service, one look-up in the aliases away, and that the query of a task that waits for its end has
the result which the script of the catalog holds for it. Every moment keeps it (`Recorded.perform`).
A query that ends in a moment is the latest one of its task, so that what it brings is what the
script holds (`Recorded.ended`).
-/

namespace Roster.PollingRegistry

/-! ## Queries and what is scripted for them -/

/-- The latest query of a task is about a service, under its alias or its own name, and the script
gives it a result if it goes that far. -/
def Answered (options : PollingOptions) (source : Catalog)
    (queries : List QueryRecord) (i : Nat) (service : String)
    (result : Except String (List CatalogEntry)) : Prop :=
  ∃ earlier q later, queries = earlier ++ q :: later ∧ q.task = i ∧ (∀ p ∈ later, p.task ≠ i) ∧
    q.name = (options.aliases.get? service).getD service ∧
    ∀ answer,
      source.script q.name (source.askedAbout q.name + earlier.countP (·.name == q.name)) =
        some answer → result = answer.result

/-- The registry's queries are all accounted for. -/
structure Recorded (options : PollingOptions) (source : Catalog)
    (r : PollingRegistry) : Prop where
  options_eq : r.options = options
  script_eq : r.catalog.script = source.script
  isKept : r.isDropped = false
  named : ∀ q ∈ r.queries, ∃ t, r.tasks[q.task]? = some t ∧
    q.name = (options.aliases.get? t.service).getD t.service
  counted : ∀ name, r.catalog.askedAbout name =
    source.askedAbout name + r.queries.countP (·.name == name)
  pending : ∀ i t next finish result, r.tasks[i]? = some t →
    t.phase = .querying next finish result → Answered options source r.queries i t.service result

variable {options : PollingOptions} {source : Catalog}
  {queries : List QueryRecord} {r r' : PollingRegistry} {i : Nat} {t t' : PollingTask}
  {service : String} {next : Option Nat} {result : Except String (List CatalogEntry)}

theorem Answered.append (h : Answered options source queries i service result) {q : QueryRecord}
    (hq : q.task ≠ i) : Answered options source (queries ++ [q]) i service result := by
  obtain ⟨earlier, p, later, rfl, htask, hlater, hrest⟩ := h
  refine ⟨earlier, p, later ++ [q], ?_, htask, fun p' hp' => ?_, hrest⟩
  · rw [List.append_assoc, List.cons_append]
  · rcases List.mem_append.mp hp' with hp' | hp'
    · exact hlater p' hp'
    · obtain rfl := List.mem_singleton.mp hp'
      exact hq

theorem Recorded.backendName_eq (h : r.Recorded options source) (service : String) :
    r.backendName service = (options.aliases.get? service).getD service := by
  rw [backendName, h.options_eq]

/-! ## Parts of a moment -/

theorem Recorded.congr (h : r.Recorded options source) (hoptions : r'.options = r.options)
    (hscript : r'.catalog.script = r.catalog.script)
    (hasked : r'.catalog.asked = r.catalog.asked) (hdropped : r'.isDropped = r.isDropped)
    (hqueries : r'.queries = r.queries) (htasks : r'.tasks = r.tasks) :
    r'.Recorded options source where
  options_eq := hoptions.trans h.options_eq
  script_eq := hscript.trans h.script_eq
  isKept := hdropped.trans h.isKept
  named := by
    rw [hqueries, htasks]
    exact h.named
  counted := by
    unfold Catalog.askedAbout
    rw [hqueries, hasked]
    exact h.counted
  pending := by
    rw [hqueries, htasks]
    exact h.pending

theorem Recorded.setTask (h : r.Recorded options source) (ht : r.tasks[i]? = some t)
    (hservice : t'.service = t.service)
    (hpending : ∀ next finish result, t'.phase = .querying next finish result →
      Answered options source r.queries i t.service result) :
    (r.setTask i t').Recorded options source := by
  have hi : i < r.tasks.length := (List.getElem?_eq_some_iff.mp ht).1
  refine { h with named := fun q hq => ?_, pending := fun j u next finish result hu hphase => ?_ }
  · obtain ⟨u, hu, hname⟩ := h.named q hq
    by_cases hij : i = q.task
    · subst hij
      obtain rfl := Option.some.inj (ht.symm.trans hu)
      exact ⟨t', List.getElem?_set_self hi, by rw [hservice]; exact hname⟩
    · exact ⟨u, (List.getElem?_set_ne hij).trans hu, hname⟩
  · replace hu : (r.tasks.set i t')[j]? = some u := hu
    by_cases hij : i = j
    · subst hij
      rw [List.getElem?_set_self hi, Option.some.injEq] at hu
      subst hu
      rw [hservice]
      exact hpending next finish result hphase
    · rw [List.getElem?_set_ne hij] at hu
      exact h.pending j u next finish result hu hphase

theorem Recorded.finishTask (h : r.Recorded options source) (ht : r.tasks[i]? = some t) :
    (r.finishTask i t).Recorded options source :=
  h.setTask ht rfl nofun

theorem Recorded.suspend (h : r.Recorded options source) (ht : r.tasks[i]? = some t)
    {phase : TaskPhase}
    (hpending : ∀ next finish result, phase = .querying next finish result →
      Answered options source r.queries i t.service result) :
    (r.suspend i t phase).Recorded options source := by
  have hset : (r.setTask i { t with phase, rank := r.waits }).Recorded options source :=
    h.setTask ht rfl hpending
  exact hset.congr rfl rfl rfl rfl rfl rfl

theorem Recorded.push (h : r.Recorded options source) (hphase : t.phase = .fresh) :
    ({ r with tasks := r.tasks ++ [t] } : PollingRegistry).Recorded options source := by
  refine { h with named := fun q hq => ?_, pending := fun j u next finish result hu hquery => ?_ }
  · obtain ⟨u, hu, hname⟩ := h.named q hq
    have hlt : q.task < r.tasks.length := (List.getElem?_eq_some_iff.mp hu).1
    exact ⟨u, (List.getElem?_append_left hlt).trans hu, hname⟩
  · replace hu : (r.tasks ++ [t])[j]? = some u := hu
    rw [List.getElem?_append] at hu
    split at hu
    · exact h.pending j u next finish result hu hquery
    · have hlast : u ∈ [t] := List.mem_of_getElem? hu
      obtain rfl := List.mem_singleton.mp hlast
      rw [hphase] at hquery
      cases hquery

/-! ## Queries -/

theorem Recorded.answered_asked (h : r.Recorded options source) (i : Nat) (t : PollingTask) :
    Answered options source (r.asked i t).queries i t.service
      (r.catalog.ask (r.backendName t.service)).1.result := by
  refine ⟨r.queries, ⟨i, r.backendName t.service, r.now⟩, [], rfl, rfl, nofun,
    h.backendName_eq t.service, fun answer hanswer => ?_⟩
  dsimp only at hanswer
  rw [← h.counted, ← h.script_eq] at hanswer
  show ((r.catalog.script _ (r.catalog.askedAbout _)).getD _).result = answer.result
  rw [hanswer]
  rfl

theorem askedAbout_ask (c : Catalog) (name name' : String) :
    (c.ask name).2.askedAbout name' = c.askedAbout name' + if name = name' then 1 else 0 := by
  show ((c.asked.set name (c.askedAbout name + 1)).get? name').getD 0 = _
  rw [Table.get?_set]
  split
  · next heq =>
    subst heq
    rfl
  · rfl

/-- A task that asks has no query under way that the new one could be taken for. -/
theorem Recorded.asked (h : r.Recorded options source) (ht : r.tasks[i]? = some t)
    (hidle : t.isQuerying = false) : (r.asked i t).Recorded options source where
  options_eq := h.options_eq
  script_eq := h.script_eq
  isKept := h.isKept
  named q hq := by
    rcases List.mem_append.mp hq with hq | hq
    · exact h.named q hq
    · obtain rfl := List.mem_singleton.mp hq
      exact ⟨t, ht, h.backendName_eq t.service⟩
  counted name := by
    refine (askedAbout_ask r.catalog (r.backendName t.service) name).trans ?_
    show _ = source.askedAbout name + (r.queries ++ [_]).countP _
    rw [h.counted, List.countP_append, List.countP_singleton, Nat.add_assoc]
    simp only [beq_iff_eq]
  pending j u next finish result hu hphase := by
    -- The query of another task stays the latest one of that task.
    refine (h.pending j u next finish result hu hphase).append ?_
    rintro rfl
    obtain rfl : t = u := Option.some.inj (ht.symm.trans hu)
    rw [PollingTask.isQuerying, hphase] at hidle
    cases hidle

theorem script_asked_adopt (r : PollingRegistry) (service : String)
    (result : Except String (List CatalogEntry)) :
    (r.adopt service result).catalog.script = r.catalog.script ∧
      (r.adopt service result).catalog.asked = r.catalog.asked := by
  cases result with
  | error e => exact ⟨rfl, rfl⟩
  | ok entries => exact ⟨rfl, rfl⟩

theorem Recorded.completeQuery (h : r.Recorded options source) (ht : r.tasks[i]? = some t)
    (next : Option Nat) (result : Except String (List CatalogEntry)) :
    (r.completeQuery i t next result).Recorded options source := by
  obtain ⟨pollers, phase, rank, waits, ⟨hover, _⟩, heq⟩ := completeQuery_eq r i t next result
  obtain ⟨hscript, hasked⟩ := script_asked_adopt r t.service result
  have hset : (r.setTask i { t with phase, rank }).Recorded options source := by
    refine h.setTask ht rfl fun next finish result hphase => ?_
    rcases hover with rfl | ⟨due, _, rfl⟩
    · cases hphase
    · cases hphase
  rw [heq]
  exact hset.congr rfl hscript hasked rfl rfl rfl

theorem Recorded.startQuery (h : r.Recorded options source) (ht : r.tasks[i]? = some t)
    (hidle : t.isQuerying = false) (next : Option Nat) :
    (r.startQuery i t next).Recorded options source := by
  have hasked := h.asked ht hidle
  rcases startQuery_cases r i t next with hover | ⟨_, hends⟩ | hgoes
  · rw [hover]
    exact hasked.completeQuery ht next _
  · rw [hends]
    exact hasked.finishTask ht
  · rw [hgoes]
    refine hasked.suspend ht fun next' finish result hphase => ?_
    cases hphase
    exact h.answered_asked i t

/-! ## Moments -/

theorem Recorded.step (h : r.Recorded options source) (i : Nat) (choice : StepChoice) :
    (r.step i choice).Recorded options source := by
  cases ht : r.tasks[i]? with
  | none =>
    rw [step_of_none ht]
    exact h
  | some t =>
    rw [step_eq_carryOut ht]
    cases hmove : t.move r.options.period r.now choice with
    | stay => exact h
    | breakDown => exact h.setTask ht rfl nofun
    | giveUp => exact h.finishTask ht
    | ask next => exact h.startQuery ht (PollingTask.isQuerying_of_move_eq_ask hmove) next
    | complete next result => exact h.completeQuery ht next result

theorem Recorded.subscribe (h : r.Recorded options source) (id : Nat) (service : String) :
    (r.subscribe id service).Recorded options source := by
  unfold PollingRegistry.subscribe ensurePoller
  split
  · exact h.congr rfl rfl rfl rfl rfl rfl
  · have hpushed := h.push (show ({ service, phase := .fresh, rank := r.waits } :
      PollingTask).phase = .fresh from rfl)
    exact hpushed.congr rfl rfl rfl rfl rfl rfl

theorem Recorded.cancel (h : r.Recorded options source) (i : Nat) :
    (r.cancel i).Recorded options source := by
  unfold PollingRegistry.cancel
  split
  · next t ht =>
    exact h.setTask ht rfl fun next finish result hphase =>
      h.pending i t next finish result ht hphase
  · exact h

theorem Recorded.stop (h : r.Recorded options source) (id : Nat) :
    (r.stop id).Recorded options source := by
  rcases stop_cases r id with hstays | ⟨service, i, _, _, hcancels⟩
  · rw [hstays]
    exact h.congr rfl rfl rfl rfl rfl rfl
  · rw [hcancels]
    have hrest : ({ r with
        state := (r.state.stop id).2, pollers := r.pollers.erase service } :
          PollingRegistry).Recorded options source :=
      h.congr rfl rfl rfl rfl rfl rfl
    exact hrest.cancel i

theorem Recorded.pushRefresher (h : r.Recorded options source) (service : String) :
    ({ r with
      tasks := r.tasks ++ [r.refresher service], waits := r.waits + 1 } :
        PollingRegistry).Recorded options source :=
  (h.push (t := r.refresher service) rfl).congr rfl rfl rfl rfl rfl rfl

theorem Recorded.beginRefresh (h : r.Recorded options source) (service : String) :
    (r.beginRefresh service).Recorded options source :=
  (h.pushRefresher service).startQuery List.getElem?_concat_length rfl none

theorem Recorded.perform (h : r.Recorded options source) {m : Action} (hm : m.isSingle = true) :
    (r.perform m).Recorded options source := by
  cases m with
  | watch id service => exact h.subscribe id service
  | stop id => exact h.stop id
  | receive id limit => exact h.congr rfl rfl rfl rfl rfl rfl
  | dropReceiver id => exact h.congr rfl rfl rfl rfl rfl rfl
  | dropHandle id => exact h
  | beginRefresh service => exact h.beginRefresh service
  | refresh service => cases hm
  | step i choice => exact h.step i choice
  | pass ms => exact h.congr rfl rfl rfl rfl rfl rfl
  | advance ms => cases hm

theorem Recorded.performAll (h : r.Recorded options source) {moments : List Action}
    (hmoments : ∀ m ∈ moments, m.isSingle = true) :
    (r.performAll moments).Recorded options source := by
  induction moments generalizing r with
  | nil => exact h
  | cons m rest ih =>
    rw [List.forall_mem_cons] at hmoments
    exact ih (h.perform hmoments.1) hmoments.2

theorem recorded_create {catalog : Catalog} {inRuntime : Bool}
    (hcreate : create catalog options inRuntime = .ok r) :
    r.Recorded options catalog := by
  unfold create at hcreate
  split at hcreate
  · cases hcreate
    exact ⟨rfl, rfl, rfl, nofun, fun _ => rfl, nofun⟩
  · cases hcreate

/-! ## Queries that end -/

/-- A query about a service has ended: it is the latest one of some task of that service, and it was
given up only if the task was cancelled. -/
def Ended (options : PollingOptions) (source : Catalog) (r : PollingRegistry) (service : String)
    (e : Ending) : Prop :=
  ∃ i t result, r.tasks[i]? = some t ∧ t.service = service ∧
    Answered options source r.queries i service result ∧
    (e = .completed result ∨ e = .abandoned ∧ t.isCancelled = true)

theorem queries_completeQuery (r : PollingRegistry) (i : Nat) (t : PollingTask)
    (next : Option Nat) (result : Except String (List CatalogEntry)) :
    (r.completeQuery i t next result).queries = r.queries := by
  obtain ⟨pollers, phase, rank, waits, _, heq⟩ := completeQuery_eq r i t next result
  rw [heq]

theorem queries_startQuery (r : PollingRegistry) (i : Nat) (t : PollingTask) (next : Option Nat) :
    (r.startQuery i t next).queries = (r.asked i t).queries := by
  rcases startQuery_cases r i t next with hover | ⟨_, hends⟩ | hgoes
  · rw [hover, queries_completeQuery]
  · rw [hends]
    rfl
  · rw [hgoes]
    rfl

/-- The task whose query ends may stand elsewhere by then, but is the same task. -/
theorem ended_of_set {e : Ending} (ht : r.tasks[i]? = some t)
    (htasks : ∃ phase rank, r'.tasks = r.tasks.set i { t with phase, rank })
    (hanswered : Answered options source r'.queries i t.service result)
    (he : e = .completed result ∨ e = .abandoned ∧ t.isCancelled = true) :
    Ended options source r' t.service e := by
  obtain ⟨phase, rank, hset⟩ := htasks
  have hi : i < r.tasks.length := (List.getElem?_eq_some_iff.mp ht).1
  refine ⟨i, { t with phase, rank }, result, ?_, rfl, hanswered, he⟩
  rw [hset]
  exact List.getElem?_set_self hi

theorem Recorded.ended_startQuery (h : r.Recorded options source) (ht : r.tasks[i]? = some t)
    (next : Option Nat) {e : Ending} (he : r.askEnding? t = some e) :
    Ended options source (r.startQuery i t next) t.service e := by
  have hanswered := h.answered_asked i t
  rw [← queries_startQuery r i t next] at hanswered
  refine ended_of_set ht (tasks_startQuery r i t next) hanswered ?_
  unfold askEnding? at he
  dsimp only at he
  split at he
  · exact Or.inl (Option.some.inj he).symm
  · split at he
    · next hcancelled => exact Or.inr ⟨(Option.some.inj he).symm, hcancelled⟩
    · cases he

theorem Recorded.ended_step (h : r.Recorded options source) (ht : r.tasks[i]? = some t)
    (choice : StepChoice) {e : Ending}
    (he : r.moveEnding? t (t.move r.options.period r.now choice) = some e) :
    Ended options source (r.step i choice) t.service e := by
  rw [step_eq_carryOut ht]
  cases hmove : t.move r.options.period r.now choice with
  | stay =>
    rw [hmove] at he
    cases he
  | breakDown =>
    rw [hmove] at he
    cases he
  | giveUp =>
    rw [hmove, moveEnding?] at he
    split at he
    · next hquerying =>
      obtain ⟨next, finish, result, hphase⟩ := PollingTask.phase_of_isQuerying hquerying
      have hcancelled := PollingTask.isCancelled_of_move_eq_giveUp hmove
      exact ended_of_set ht ⟨.ended, t.rank, rfl⟩ (h.pending i t next finish result ht hphase)
        (Or.inr ⟨(Option.some.inj he).symm, hcancelled⟩)
    · cases he
  | ask next =>
    rw [hmove] at he
    exact h.ended_startQuery ht next he
  | complete next result =>
    rw [hmove] at he
    obtain ⟨finish, hphase⟩ := PollingTask.phase_of_move_eq_complete hmove
    have hanswered := h.pending i t next finish result ht hphase
    rw [← queries_completeQuery r i t next result] at hanswered
    exact ended_of_set ht (tasks_completeQuery r i t next result) hanswered
      (Or.inl (Option.some.inj he).symm)

/-- What ends in a moment is the latest query of its task, and what it brings is what the script
holds for it. -/
theorem Recorded.ended (h : r.Recorded options source) {m : Action} {e : Ending}
    (he : r.ending? m = some (service, e)) : Ended options source (r.perform m) service e := by
  cases m with
  | beginRefresh service' =>
    obtain ⟨e', hask, heq⟩ := Option.map_eq_some_iff.mp he
    cases heq
    exact (h.pushRefresher service).ended_startQuery List.getElem?_concat_length none hask
  | step i choice =>
    obtain ⟨t, ht, hmap⟩ := Option.bind_eq_some_iff.mp he
    obtain ⟨e', hends, heq⟩ := Option.map_eq_some_iff.mp hmap
    cases heq
    exact h.ended_step ht choice hends
  | _ => cases he

end Roster.PollingRegistry
