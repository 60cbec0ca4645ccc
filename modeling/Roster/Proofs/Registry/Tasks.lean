import Roster.Proofs.Registry.Adoption
import Roster.Proofs.Registry.Pollers

/-!
# Where queries come from, and what becomes of tasks

A moment starts one query at most (`query?`), and this is the only way in which queries are made
(`queries_perform`). It leaves the tasks alone, or makes one of them another (`Becomes`), or adds
one of a service for which it may start a task (`tasks_perform`). Tasks keep their service, so the
queries about a service are those that moments started for it, in their order
(`queriesAbout_performAll`).
-/

namespace Roster

def Ending.result? : Ending → Option (Except String (List CatalogEntry))
  | .completed result => some result
  | .abandoned => none

namespace PollingTask

/-- What becomes of a task: its service stays, and so do its cancellation and its end. -/
structure Becomes (t t' : PollingTask) : Prop where
  service_eq : t'.service = t.service
  isCancelled : t.isCancelled = true → t'.isCancelled = true
  isOver : t.isOver = true → t'.isOver = true

variable {t : PollingTask} {period now : Nat} {choice : StepChoice}

theorem move_of_isOver (hover : t.isOver = true) : t.move period now choice = .stay := by
  unfold isOver at hover
  unfold move
  split at hover
  · next hphase => rw [hphase]
  · next hphase => rw [hphase]
  · cases hover

end PollingTask

namespace PollingRegistry

variable {options : PollingOptions} {source : Catalog} {r : PollingRegistry} {i : Nat}
  {t t' : PollingTask} {service : String} {m : Action}

/-! ## Queries about a service -/

/-- The service for which an action may start a task. -/
def Action.opens? : Action → Option String
  | .watch _ service => some service
  | .beginRefresh service => some service
  | .refresh service => some service
  | _ => none

def queriesAbout (r : PollingRegistry) (service : String) : List QueryRecord :=
  r.queries.filter fun q => r.tasks[q.task]?.any (·.service == service)

def moveQuery? (r : PollingRegistry) (i : Nat) (t : PollingTask) : Move → Option QueryRecord
  | .ask _ => some ⟨i, r.backendName t.service, r.now⟩
  | _ => none

def query? (r : PollingRegistry) : Action → Option (String × QueryRecord)
  | .beginRefresh service =>
    some (service, ⟨r.tasks.length, r.backendName service, r.now⟩)
  | .step i choice =>
    r.tasks[i]?.bind fun t =>
      (r.moveQuery? i t (t.move r.options.period r.now choice)).map (t.service, ·)
  | _ => none

/-- The queries that start in moments, in turn: about which service, and their records. -/
def queriesIn (r : PollingRegistry) : List Action → List (String × QueryRecord)
  | [] => []
  | m :: rest => (r.query? m).toList ++ (r.perform m).queriesIn rest

def about {α : Type} (service : String) (es : List (String × α)) : List α :=
  es.filterMap fun e => if e.1 = service then some e.2 else none

/-- What the queries about a service brought that ended in moments, in turn. -/
def results (r : PollingRegistry) (service : String) (moments : List Action) :
    List (Except String (List CatalogEntry)) :=
  (about service (r.endings moments)).filterMap Ending.result?

theorem about_map_self {α : Type} (service : String) (o : Option α) :
    about service (o.map (service, ·)).toList = o.toList := by
  cases o with
  | none => rfl
  | some a => simp [about]

theorem about_map_of_ne {α : Type} {service service' : String} (h : service' ≠ service)
    (o : Option α) : about service (o.map (service', ·)).toList = [] := by
  cases o with
  | none => rfl
  | some a => simp [about, h]

theorem about_append {α : Type} (service : String) (es es' : List (String × α)) :
    about service (es ++ es') = about service es ++ about service es' :=
  List.filterMap_append

theorem queries_carryOut (r : PollingRegistry) (i : Nat) (t : PollingTask) (move : Move) :
    (r.carryOut i t move).queries = r.queries ++ (r.moveQuery? i t move).toList := by
  cases move with
  | ask next => exact queries_startQuery r i t next
  | complete next result =>
    exact (queries_completeQuery r i t next result).trans (List.append_nil _).symm
  | _ => exact (List.append_nil _).symm

theorem queries_subscribe (r : PollingRegistry) (id : Nat) (service : String) :
    (r.subscribe id service).queries = r.queries := by
  unfold subscribe ensurePoller
  split <;> rfl

theorem queries_stop (r : PollingRegistry) (id : Nat) : (r.stop id).queries = r.queries := by
  rcases stop_cases r id with hstays | ⟨service, i, _, _, hcancels⟩
  · rw [hstays]
  · rw [hcancels, cancel]
    split <;> rfl

theorem queries_perform (hm : m.isSingle = true) :
    (r.perform m).queries = r.queries ++ ((r.query? m).map (·.2)).toList := by
  cases m with
  | watch id service => exact (queries_subscribe r id service).trans (List.append_nil _).symm
  | stop id => exact (queries_stop r id).trans (List.append_nil _).symm
  | beginRefresh service => exact queries_startQuery _ r.tasks.length (r.refresher service) none
  | refresh service => cases hm
  | step i choice =>
    simp only [perform, query?]
    cases ht : r.tasks[i]? with
    | none =>
      rw [step_of_none ht]
      exact (List.append_nil _).symm
    | some t =>
      rw [step_eq_carryOut ht, queries_carryOut, Option.bind_some, Option.map_map]
      exact congrArg (fun q => r.queries ++ Option.toList q) Option.map_id'.symm
  | advance ms => cases hm
  | _ => exact (List.append_nil _).symm

/-! ## What becomes of tasks -/

theorem tasks_carryOut (r : PollingRegistry) (i : Nat) (t : PollingTask) (move : Move)
    (hmove : t.isOver = true → move = .stay) :
    (r.carryOut i t move).tasks = r.tasks ∨
      ∃ t', t.Becomes t' ∧ (r.carryOut i t move).tasks = r.tasks.set i t' := by
  have hbecomes (phase : TaskPhase) (rank : Nat) (hne : move ≠ .stay) :
      t.Becomes { t with phase, rank } :=
    ⟨rfl, id, fun hover => absurd (hmove hover) hne⟩
  cases move with
  | stay => exact Or.inl rfl
  | breakDown => exact Or.inr ⟨_, hbecomes .failed t.rank nofun, rfl⟩
  | giveUp => exact Or.inr ⟨_, hbecomes .ended t.rank nofun, rfl⟩
  | ask next =>
    obtain ⟨phase, rank, hset⟩ := tasks_startQuery r i t next
    exact Or.inr ⟨_, hbecomes phase rank nofun, hset⟩
  | complete next result =>
    obtain ⟨phase, rank, hset⟩ := tasks_completeQuery r i t next result
    exact Or.inr ⟨_, hbecomes phase rank nofun, hset⟩

theorem tasks_cancel (r : PollingRegistry) (i : Nat) :
    (r.cancel i).tasks = r.tasks ∨
      ∃ t t', r.tasks[i]? = some t ∧ t.Becomes t' ∧ (r.cancel i).tasks = r.tasks.set i t' := by
  unfold cancel
  split
  · next t ht => exact Or.inr ⟨t, { t with isCancelled := true }, ht, ⟨rfl, fun _ => rfl, id⟩, rfl⟩
  · exact Or.inl rfl

/-- The task of a refresh is never an active poller, and the map of pollers does not list it. -/
theorem beginRefresh_eq (r : PollingRegistry) (service : String) :
    ∃ t', t'.service = service ∧ t'.isActive = false ∧
      (r.beginRefresh service).tasks = r.tasks ++ [t'] ∧
      (r.beginRefresh service).pollers = r.pollers := by
  let t := r.refresher service
  let started : PollingRegistry := { r with tasks := r.tasks ++ [t], waits := r.waits + 1 }
  have hset (t' : PollingTask) : (r.tasks ++ [t]).set r.tasks.length t' = r.tasks ++ [t'] := by
    rw [List.set_append_right _ _ (Nat.le_refl _), Nat.sub_self]
    rfl
  let answer := (started.catalog.ask (started.backendName t.service)).1
  rcases startQuery_cases started r.tasks.length t none with hover | ⟨hcancelled, _⟩ | hgoes
  · obtain ⟨catalog, state, hadopt, _⟩ :=
      adopt_eq (started.asked r.tasks.length t) answer.result t.service
    rcases completeQuery_cases (started.asked r.tasks.length t) r.tasks.length t none
      answer.result with ⟨_, hends⟩ | ⟨due, hdue, _⟩
    · rw [hadopt] at hends
      have heq := hover.trans hends
      exact ⟨{ t with phase := .ended }, rfl, rfl, (congrArg tasks heq).trans (hset _),
        (congrArg pollers heq).trans rfl⟩
    · cases hdue
  · cases hcancelled
  · exact ⟨{ t with phase := .querying none _ _, rank := _ }, rfl, rfl,
      (congrArg tasks hgoes).trans (hset _), (congrArg pollers hgoes).trans rfl⟩

/-- What a moment does to the tasks: nothing, or one of them becomes another, or there is a new one
of a service for which the moment may start a task. -/
theorem tasks_perform (hm : m.isSingle = true) :
    (r.perform m).tasks = r.tasks ∨
    (∃ i t t', r.tasks[i]? = some t ∧ t.Becomes t' ∧ (r.perform m).tasks = r.tasks.set i t') ∨
    ∃ t', m.opens? = some t'.service ∧ (r.perform m).tasks = r.tasks ++ [t'] := by
  cases m with
  | watch id service =>
    simp only [perform, subscribe, ensurePoller]
    split
    · exact Or.inl rfl
    · exact Or.inr (Or.inr ⟨_, rfl, rfl⟩)
  | stop id =>
    rcases stop_cases r id with hstays | ⟨service, i, _, _, hcancels⟩
    · simp only [perform, hstays]
      exact Or.inl trivial
    · simp only [perform, hcancels]
      rcases tasks_cancel { r with
        state := (r.state.stop id).2, pollers := r.pollers.erase service } i with
        hstays | ⟨t, t', ht, hbecomes, hset⟩
      · exact Or.inl hstays
      · exact Or.inr (Or.inl ⟨i, t, t', ht, hbecomes, hset⟩)
  | beginRefresh service =>
    obtain ⟨t', rfl, _, hpush, _⟩ := beginRefresh_eq r service
    exact Or.inr (Or.inr ⟨t', rfl, hpush⟩)
  | refresh service => cases hm
  | step i choice =>
    simp only [perform]
    cases ht : r.tasks[i]? with
    | none =>
      rw [step_of_none ht]
      exact Or.inl rfl
    | some t =>
      rw [step_eq_carryOut ht]
      rcases tasks_carryOut r i t (t.move r.options.period r.now choice)
        PollingTask.move_of_isOver with hstays | ⟨t', hbecomes, hset⟩
      · exact Or.inl hstays
      · exact Or.inr (Or.inl ⟨i, t, t', ht, hbecomes, hset⟩)
  | advance ms => cases hm
  | _ => exact Or.inl rfl

theorem getElem?_tasks_perform (hm : m.isSingle = true) (ht : r.tasks[i]? = some t) :
    ∃ t', (r.perform m).tasks[i]? = some t' ∧ t'.service = t.service := by
  have hi : i < r.tasks.length := (List.getElem?_eq_some_iff.mp ht).1
  rcases tasks_perform (r := r) hm with hstays | ⟨j, u, u', hu, hbecomes, hset⟩ | ⟨u', _, hpush⟩
  · rw [hstays]
    exact ⟨t, ht, rfl⟩
  · rw [hset]
    by_cases hij : j = i
    · subst hij
      obtain rfl : t = u := Option.some.inj (ht.symm.trans hu)
      exact ⟨u', List.getElem?_set_self hi, hbecomes.service_eq⟩
    · exact ⟨t, (List.getElem?_set_ne hij).trans ht, rfl⟩
  · rw [hpush]
    exact ⟨t, (List.getElem?_append_left hi).trans ht, rfl⟩

theorem getElem?_tasks_query? {q : QueryRecord} (hm : m.isSingle = true)
    (hq : r.query? m = some (service, q)) :
    ∃ t', (r.perform m).tasks[q.task]? = some t' ∧ t'.service = service := by
  cases m with
  | beginRefresh service' =>
    cases hq
    obtain ⟨t', hservice, _, hpush, _⟩ := beginRefresh_eq r service
    exact ⟨t', hpush ▸ List.getElem?_concat_length, hservice⟩
  | step i choice =>
    obtain ⟨t, ht, hmap⟩ := Option.bind_eq_some_iff.mp hq
    obtain ⟨q', hmove, heq⟩ := Option.map_eq_some_iff.mp hmap
    cases heq
    have htask : q.task = i := by
      unfold moveQuery? at hmove
      split at hmove
      · cases hmove
        rfl
      · cases hmove
    rw [htask]
    exact getElem?_tasks_perform hm ht
  | _ => cases hq

/-- A moment adds the query that starts in it to those about its service, and to no others. -/
theorem queriesAbout_perform (h : r.Recorded options source) (hm : m.isSingle = true)
    (service : String) :
    (r.perform m).queriesAbout service =
      r.queriesAbout service ++ about service (r.query? m).toList := by
  rw [queriesAbout, queries_perform hm, List.filter_append]
  congr 1
  · -- A query that was made before is about the service of its task, which stays.
    refine List.filter_congr fun q hq => ?_
    obtain ⟨t, ht, _⟩ := h.named q hq
    obtain ⟨t', ht', hservice⟩ := getElem?_tasks_perform hm ht
    rw [ht, ht', Option.any_some, Option.any_some, hservice]
  · cases hquery : r.query? m with
    | none => rfl
    | some q =>
      obtain ⟨t', ht', hservice⟩ := getElem?_tasks_query? (q := q.2) hm hquery
      by_cases hsame : q.1 = service
      · simp [about, ht', hservice, hsame]
      · simp [about, ht', hservice, hsame]

theorem queriesAbout_performAll (h : r.Recorded options source) {moments : List Action}
    (hmoments : ∀ m ∈ moments, m.isSingle = true) (service : String) :
    (r.performAll moments).queriesAbout service =
      r.queriesAbout service ++ about service (r.queriesIn moments) := by
  induction moments generalizing r with
  | nil => exact (List.append_nil _).symm
  | cons m rest ih =>
    rw [List.forall_mem_cons] at hmoments
    rw [performAll_cons, ih (h.perform hmoments.1) hmoments.2, queriesAbout_perform h hmoments.1,
      queriesIn, about_append, List.append_assoc]

theorem results_cons (r : PollingRegistry) (service : String) (m : Action) (rest : List Action) :
    r.results service (m :: rest) =
      r.results service [m] ++ (r.perform m).results service rest := by
  simp only [results, endings, about_append, List.filterMap_append, List.append_nil]

theorem results_single (r : PollingRegistry) (service : String) (m : Action) :
    r.results service [m] = (about service (r.ending? m).toList).filterMap Ending.result? := by
  rw [results, endings, endings, List.append_nil]

end PollingRegistry

end Roster
