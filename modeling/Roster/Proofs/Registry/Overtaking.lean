import Mathlib.Data.List.Induction
import Roster.Proofs.Registry.Tasks

/-!
# Queries that end late

Queries are numbered as they start. What a moment does about queries concerns one task
(`Recorded.concerns`), and a task makes one query after the other, so that the queries of one task
end in the order in which they started. Those of different tasks need not: the members of a service
are what the query brought that ended last (`instances_arrivals`), and this may be an older one
than the newest. The main theorem says that the newest query about a service is shown exactly unless
an older one, which another task made, ended after it with other members (`newest_shown_iff`).
-/

namespace Roster.PollingRegistry

variable {options : PollingOptions} {source : Catalog} {r : PollingRegistry} {i : Nat}
  {t : PollingTask} {m : Action} {service : String} {queries : List QueryRecord}

/-! ## Numbers of queries -/

def latest? (queries : List QueryRecord) (task : Nat) : Option Nat :=
  (queries.zipIdx.filter (·.1.task == task)).getLast?.map (·.2)

/-- The task that made the query of a number. -/
def taskOf (r : PollingRegistry) (number : Nat) : Option Nat :=
  (r.queries[number]?).map (·.task)

theorem latest?_concat (queries : List QueryRecord) (q : QueryRecord) (i : Nat) :
    latest? (queries ++ [q]) i = if q.task = i then some queries.length else latest? queries i := by
  unfold latest?
  rw [List.zipIdx_append, List.filter_append]
  by_cases h : q.task = i <;> simp [h]

theorem latest?_eq_some {n : Nat} (h : latest? queries i = some n) :
    (∃ q, queries[n]? = some q ∧ q.task = i) ∧
      ∀ k q, queries[k]? = some q → q.task = i → k ≤ n := by
  induction queries using List.reverseRecOn with
  | nil => cases h
  | append_singleton earlier last ih =>
    rw [latest?_concat] at h
    split at h
    · next htask =>
      cases h
      refine ⟨⟨last, List.getElem?_concat_length, htask⟩, fun k q hq _ => ?_⟩
      have hk := (List.getElem?_eq_some_iff.mp hq).1
      rw [List.length_append, List.length_singleton] at hk
      omega
    · next htask =>
      obtain ⟨⟨q, hq, hqi⟩, hmax⟩ := ih h
      have hn := (List.getElem?_eq_some_iff.mp hq).1
      refine ⟨⟨q, (List.getElem?_append_left hn).trans hq, hqi⟩, fun k q' hq' hqi' => ?_⟩
      rw [List.getElem?_append] at hq'
      split at hq'
      · exact hmax k q' hq' hqi'
      · exact absurd (List.mem_singleton.mp (List.mem_of_getElem? hq') ▸ hqi') htask

theorem latest?_append_cons {earlier later : List QueryRecord} {q : QueryRecord}
    (hq : q.task = i) (hlater : ∀ p ∈ later, p.task ≠ i) :
    latest? (earlier ++ q :: later) i = some earlier.length := by
  induction later using List.reverseRecOn with
  | nil => rw [latest?_concat, if_pos hq]
  | append_singleton later last ih =>
    have hsplit : earlier ++ q :: (later ++ [last]) = (earlier ++ q :: later) ++ [last] := by simp
    rw [hsplit, latest?_concat, if_neg (hlater last (by simp))]
    exact ih fun p hp => hlater p (List.mem_append_left _ hp)

/-! ## What a moment does about queries -/

/-- A query of a task is under way. -/
def IsQuerying (r : PollingRegistry) (i : Nat) : Prop :=
  ∃ t, r.tasks[i]? = some t ∧ t.isQuerying = true

def actor? (r : PollingRegistry) : Action → Option Nat
  | .beginRefresh _ => some r.tasks.length
  | .step i _ => some i
  | _ => none

/-- What a moment does about queries concerns one task at most: it starts a query of it, or ends
one that is under way or starts now. -/
structure Concerns (options : PollingOptions) (source : Catalog) (r : PollingRegistry) (m : Action)
    (i : Nat) : Prop where
  others : ∀ j, j ≠ i → (r.perform m).IsQuerying j → r.IsQuerying j
  queries : (r.perform m).queries = r.queries ∨
    ∃ q : QueryRecord, q.task = i ∧ (r.perform m).queries = r.queries ++ [q]
  goes : (r.perform m).IsQuerying i →
    r.ending? m = none ∧ ((r.perform m).queries = r.queries → r.IsQuerying i)
  ends : ∀ service result, r.ending? m = some (service, .completed result) →
    r.actor? m = some i ∧ ((r.perform m).queries = r.queries → r.IsQuerying i) ∧
      (∃ t, (r.perform m).tasks[i]? = some t ∧ t.service = service) ∧
      Answered options source (r.perform m).queries i service result

/-- A moment that makes no query, ends none and lets none appear concerns no task. -/
theorem concerns_of_idle (hqueries : (r.perform m).queries = r.queries)
    (hending : r.ending? m = none) (htasks : ∀ j, (r.perform m).IsQuerying j → r.IsQuerying j)
    (i : Nat) : Concerns options source r m i where
  others j _ := htasks j
  queries := Or.inl hqueries
  goes h := ⟨hending, fun _ => htasks i h⟩
  ends service result h := by
    rw [hending] at h
    cases h

theorem isQuerying_of_set {r' : PollingRegistry} {t' : PollingTask}
    (hset : r'.tasks = r.tasks.set i t') {j : Nat} (hj : j ≠ i) (h : r'.IsQuerying j) :
    r.IsQuerying j := by
  obtain ⟨u, hu, hquerying⟩ := h
  rw [hset, List.getElem?_set_ne (Ne.symm hj)] at hu
  exact ⟨u, hu, hquerying⟩

theorem not_isQuerying_of_set {r' : PollingRegistry} {t' : PollingTask}
    (hset : r'.tasks = r.tasks.set i t') (hidle : t'.isQuerying = false) : ¬ r'.IsQuerying i := by
  rintro ⟨u, hu, hquerying⟩
  rw [hset] at hu
  have hi := (List.getElem?_eq_some_iff.mp hu).1
  rw [List.length_set] at hi
  rw [List.getElem?_set_self hi, Option.some.injEq] at hu
  rw [hu, hquerying] at hidle
  cases hidle

theorem not_isQuerying_completeQuery (r : PollingRegistry) (i : Nat) (t : PollingTask)
    (next : Option Nat) (result : Except String (List CatalogEntry)) :
    ¬ (r.completeQuery i t next result).IsQuerying i := by
  obtain ⟨pollers, phase, rank, waits, ⟨hphase, _⟩, heq⟩ := completeQuery_eq r i t next result
  refine not_isQuerying_of_set (congrArg tasks heq) ?_
  rcases hphase with rfl | ⟨due, _, rfl⟩ <;> rfl

theorem askEnding?_of_isQuerying {next : Option Nat}
    (h : (r.startQuery i t next).IsQuerying i) : r.askEnding? t = none := by
  unfold startQuery at h
  unfold askEnding?
  dsimp only at h ⊢
  split
  · next hdelay =>
    rw [if_pos hdelay] at h
    exact absurd h (not_isQuerying_completeQuery _ i t next _)
  · next hdelay =>
    rw [if_neg hdelay] at h
    split
    · next hcancelled =>
      rw [if_pos hcancelled] at h
      exact absurd h (not_isQuerying_of_set rfl rfl)
    · rfl

theorem result_of_askEnding? {result : Except String (List CatalogEntry)}
    (h : r.askEnding? t = some (.completed result)) :
    (r.catalog.ask (r.backendName t.service)).1.result = result := by
  unfold askEnding? at h
  dsimp only at h
  split at h
  · cases h
    rfl
  · split at h <;> cases h

theorem Recorded.answered_startQuery (h : r.Recorded options source) {next : Option Nat}
    {result : Except String (List CatalogEntry)}
    (hends : r.askEnding? t = some (.completed result)) :
    Answered options source (r.startQuery i t next).queries i t.service result := by
  have hanswered := h.answered_asked i t
  rwa [result_of_askEnding? hends, ← queries_startQuery r i t next] at hanswered

theorem queries_startQuery_ne (r : PollingRegistry) (i : Nat) (t : PollingTask)
    (next : Option Nat) : (r.startQuery i t next).queries ≠ r.queries := by
  rw [queries_startQuery]
  exact fun hsame => List.cons_ne_nil _ _ (List.append_right_eq_self.mp hsame)

theorem getElem?_tasks_of_set {r' : PollingRegistry} (ht : r.tasks[i]? = some t)
    (hset : ∃ phase rank, r'.tasks = r.tasks.set i { t with phase, rank }) :
    ∃ t', r'.tasks[i]? = some t' ∧ t'.service = t.service := by
  obtain ⟨phase, rank, hset⟩ := hset
  have hi := (List.getElem?_eq_some_iff.mp ht).1
  refine ⟨{ t with phase, rank }, ?_, rfl⟩
  rw [hset, List.getElem?_set_self hi]

theorem Recorded.concerns_step (h : r.Recorded options source) (i : Nat) (choice : StepChoice) :
    Concerns options source r (.step i choice) i := by
  cases ht : r.tasks[i]? with
  | none =>
    have hsame : r.perform (.step i choice) = r := step_of_none ht choice
    refine concerns_of_idle (by rw [hsame]) ?_ (fun j hj => by rwa [hsame] at hj) i
    rw [ending?, ht]
    rfl
  | some t =>
    have hstep : r.perform (.step i choice) =
        r.carryOut i t (t.move r.options.period r.now choice) := step_eq_carryOut ht choice
    have hending : r.ending? (.step i choice) =
        (r.moveEnding? t (t.move r.options.period r.now choice)).map (t.service, ·) := by
      rw [ending?, ht]
      rfl
    have hthere (hquerying : t.isQuerying = true) : r.IsQuerying i := ⟨t, ht, hquerying⟩
    cases hmove : t.move r.options.period r.now choice with
    | stay =>
      rw [hmove] at hstep hending
      exact concerns_of_idle (by rw [hstep]; rfl) hending (fun j hj => by rwa [hstep] at hj) i
    | breakDown =>
      rw [hmove] at hstep hending
      have hset : (r.perform (.step i choice)).tasks = r.tasks.set i { t with phase := .failed } :=
        congrArg tasks hstep
      refine concerns_of_idle (by rw [hstep]; rfl) hending (fun j hj => ?_) i
      by_cases hji : j = i
      · exact absurd (hji ▸ hj) (not_isQuerying_of_set hset rfl)
      · exact isQuerying_of_set hset hji hj
    | giveUp =>
      rw [hmove] at hstep hending
      have hset : (r.perform (.step i choice)).tasks = r.tasks.set i { t with phase := .ended } :=
        congrArg tasks hstep
      refine ⟨fun j hji => isQuerying_of_set hset hji, Or.inl (by rw [hstep]; rfl),
        fun hj => absurd hj (not_isQuerying_of_set hset rfl), fun service result hends => ?_⟩
      rw [hending, moveEnding?] at hends
      split at hends <;> cases hends
    | ask next =>
      rw [hmove] at hstep hending
      obtain ⟨phase, rank, hset⟩ := tasks_startQuery r i t next
      have hqueries : (r.startQuery i t next).queries = _ := queries_startQuery r i t next
      have hgrows := queries_startQuery_ne r i t next
      simp only [carryOut, moveEnding?] at hstep hending
      refine ⟨?_, ?_, ?_, ?_⟩ <;> rw [hstep]
      · exact fun j hji => isQuerying_of_set hset hji
      · exact Or.inr ⟨_, rfl, hqueries⟩
      · intro hquerying
        rw [hending, askEnding?_of_isQuerying hquerying]
        exact ⟨rfl, fun hsame => absurd hsame hgrows⟩
      · intro service result hends
        rw [hending] at hends
        obtain ⟨e, hask, heq⟩ := Option.map_eq_some_iff.mp hends
        cases heq
        exact ⟨rfl, fun hsame => absurd hsame hgrows,
          getElem?_tasks_of_set ht ⟨phase, rank, hset⟩, h.answered_startQuery hask⟩
    | complete next result =>
      rw [hmove] at hstep hending
      obtain ⟨finish, hphase⟩ := PollingTask.phase_of_move_eq_complete hmove
      obtain ⟨phase, rank, hset⟩ := tasks_completeQuery r i t next result
      have hqueries := queries_completeQuery r i t next result
      simp only [carryOut, moveEnding?] at hstep hending
      refine ⟨?_, ?_, ?_, ?_⟩ <;> rw [hstep]
      · exact fun j hji => isQuerying_of_set hset hji
      · exact Or.inl hqueries
      · exact fun hquerying => absurd hquerying (not_isQuerying_completeQuery r i t next result)
      · intro service result' hends
        rw [hending] at hends
        cases hends
        refine ⟨rfl, fun _ => hthere ?_, getElem?_tasks_of_set ht ⟨phase, rank, hset⟩, ?_⟩
        · rw [PollingTask.isQuerying, hphase]
        · rw [hqueries]
          exact h.pending i t next finish result ht hphase

theorem isQuerying_of_cancel {j : Nat} (h : (r.cancel i).IsQuerying j) : r.IsQuerying j := by
  unfold cancel at h
  split at h
  · next t ht =>
    by_cases hj : j = i
    · obtain ⟨u, hu, hquerying⟩ := h
      have hi := (List.getElem?_eq_some_iff.mp ht).1
      rw [hj, setTask, List.getElem?_set_self hi, Option.some.injEq] at hu
      rw [← hu] at hquerying
      exact ⟨t, hj ▸ ht, hquerying⟩
    · exact isQuerying_of_set rfl hj h
  · exact h

theorem isQuerying_of_push {r' : PollingRegistry} {j : Nat} (hpush : r'.tasks = r.tasks ++ [t])
    (hj : r.tasks.length ≠ j ∨ t.isQuerying = false) (h : r'.IsQuerying j) : r.IsQuerying j := by
  obtain ⟨u, hu, hquerying⟩ := h
  rw [hpush, List.getElem?_append] at hu
  split at hu
  · exact ⟨u, hu, hquerying⟩
  · next hout =>
    obtain rfl := List.mem_singleton.mp (List.mem_of_getElem? hu)
    have hlt := (List.getElem?_eq_some_iff.mp hu).1
    rw [List.length_singleton] at hlt
    rcases hj with hj | hidle
    · omega
    · rw [hidle] at hquerying
      cases hquerying

theorem Recorded.concerns_beginRefresh (h : r.Recorded options source) (service : String) :
    Concerns options source r (.beginRefresh service) r.tasks.length := by
  obtain ⟨t', hservice, _, hpush, _⟩ := beginRefresh_eq r service
  let started : PollingRegistry :=
    { r with tasks := r.tasks ++ [r.refresher service], waits := r.waits + 1 }
  have hstarted : started.Recorded options source := h.pushRefresher service
  have hending : r.ending? (.beginRefresh service) =
      (started.askEnding? (r.refresher service)).map (service, ·) := rfl
  have hqueries := queries_startQuery started r.tasks.length (r.refresher service) none
  have hgrows : (r.perform (.beginRefresh service)).queries ≠ r.queries :=
    queries_startQuery_ne started r.tasks.length (r.refresher service) none
  refine ⟨fun j hj => isQuerying_of_push hpush (Or.inl (Ne.symm hj)), Or.inr ⟨_, rfl, hqueries⟩,
    fun hquerying => ?_, fun service' result hends => ?_⟩
  · have hgoes : started.askEnding? (r.refresher service) = none :=
      askEnding?_of_isQuerying (r := started) hquerying
    rw [hending, hgoes]
    exact ⟨rfl, fun hsame => absurd hsame hgrows⟩
  · rw [hending] at hends
    obtain ⟨e, hask, heq⟩ := Option.map_eq_some_iff.mp hends
    cases heq
    have hlast : (r.perform (.beginRefresh service)).tasks[r.tasks.length]? = some t' := by
      show (r.beginRefresh service).tasks[r.tasks.length]? = some t'
      rw [hpush]
      exact List.getElem?_concat_length
    exact ⟨rfl, fun hsame => absurd hsame hgrows, ⟨t', hlast, hservice⟩,
      hstarted.answered_startQuery hask⟩

theorem isQuerying_of_subscribe {id j : Nat} (h : (r.subscribe id service).IsQuerying j) :
    r.IsQuerying j := by
  unfold subscribe ensurePoller at h
  split at h
  · exact h
  · exact isQuerying_of_push (t := { service, phase := .fresh, rank := r.waits }) rfl
      (Or.inr rfl) h

theorem isQuerying_of_stop {id j : Nat} (h : (r.stop id).IsQuerying j) : r.IsQuerying j := by
  rcases stop_cases r id with hstays | ⟨service, i, _, _, hcancels⟩
  · rwa [hstays] at h
  · rw [hcancels] at h
    have hrest := isQuerying_of_cancel h
    exact hrest

/-- Every moment concerns one task at most. -/
theorem Recorded.concerns (h : r.Recorded options source) (hm : m.isSingle = true) :
    ∃ i, Concerns options source r m i := by
  cases m with
  | watch id service =>
    exact ⟨0, concerns_of_idle (m := .watch id service) (queries_subscribe r id service) rfl
      (fun _ hj => isQuerying_of_subscribe hj) 0⟩
  | stop id =>
    exact ⟨0, concerns_of_idle (m := .stop id) (queries_stop r id) rfl
      (fun _ hj => isQuerying_of_stop hj) 0⟩
  | beginRefresh service => exact ⟨_, h.concerns_beginRefresh service⟩
  | step i choice => exact ⟨i, h.concerns_step i choice⟩
  | refresh service => cases hm
  | advance ms => cases hm
  | receive id limit =>
    exact ⟨0, concerns_of_idle (m := .receive id limit) rfl rfl (fun _ hj => hj) 0⟩
  | dropReceiver id =>
    exact ⟨0, concerns_of_idle (m := .dropReceiver id) rfl rfl (fun _ hj => hj) 0⟩
  | dropHandle id => exact ⟨0, concerns_of_idle (m := .dropHandle id) rfl rfl (fun _ hj => hj) 0⟩
  | pass ms => exact ⟨0, concerns_of_idle (m := .pass ms) rfl rfl (fun _ hj => hj) 0⟩

/-! ## Arrivals -/

/-- A query that ended with entries, by its number. -/
structure Arrival where
  number : Nat
  entries : List CatalogEntry
  deriving DecidableEq, Repr

def entriesAbout? (service : String) (e : String × Ending) : Option (List CatalogEntry) :=
  if e.1 = service then e.2.entries? else none

def arrival? (r : PollingRegistry) (service : String) (m : Action) : Option Arrival :=
  ((r.actor? m).bind (latest? (r.perform m).queries)).bind fun number =>
    ((r.ending? m).bind (entriesAbout? service)).map (.mk number)

/-- The queries about a service that end with entries in moments, in turn. -/
def arrivals (r : PollingRegistry) (service : String) : List Action → List Arrival
  | [] => []
  | m :: rest => (r.arrival? service m).toList ++ (r.perform m).arrivals service rest

/-- A task of a service made a query of this number, and the entries are what the script gives it if
it goes that far. -/
def Arrived (options : PollingOptions) (source : Catalog) (r : PollingRegistry) (service : String)
    (a : Arrival) : Prop :=
  ∃ q t, r.queries[a.number]? = some q ∧ r.tasks[q.task]? = some t ∧ t.service = service ∧
    q.name = (options.aliases.get? service).getD service ∧
    ∀ answer,
      source.script q.name
          (source.askedAbout q.name + (r.queries.take a.number).countP (·.name == q.name)) =
        some answer → answer.result = .ok a.entries

theorem Answered.latest {result : Except String (List CatalogEntry)}
    (h : Answered options source queries i service result) :
    ∃ n q, latest? queries i = some n ∧ queries[n]? = some q ∧ q.task = i ∧
      q.name = (options.aliases.get? service).getD service ∧
      ∀ answer,
        source.script q.name
            (source.askedAbout q.name + (queries.take n).countP (·.name == q.name)) =
          some answer → result = answer.result := by
  obtain ⟨earlier, q, later, rfl, htask, hlater, hname, hscript⟩ := h
  refine ⟨earlier.length, q, latest?_append_cons htask hlater, ?_, htask, hname, ?_⟩
  · simp
  · rwa [List.take_left]

theorem entries_of_ends {entries : List CatalogEntry}
    (h : (r.ending? m).bind (entriesAbout? service) = some entries) :
    r.ending? m = some (service, .completed (.ok entries)) := by
  obtain ⟨⟨service', e⟩, hends, hentries⟩ := Option.bind_eq_some_iff.mp h
  simp only [entriesAbout?] at hentries
  split at hentries
  · next heq =>
    subst heq
    rw [hends, Ending.completed_of_entries? hentries]
  · cases hentries

/-- What ends with entries is the latest query of the task that the moment concerns. -/
theorem Concerns.latest_arrival {a : Arrival} (hc : Concerns options source r m i)
    (ha : r.arrival? service m = some a) :
    r.ending? m = some (service, .completed (.ok a.entries)) ∧
      latest? (r.perform m).queries i = some a.number := by
  obtain ⟨number, hnumber, hmap⟩ := Option.bind_eq_some_iff.mp ha
  obtain ⟨entries, hentries, rfl⟩ := Option.map_eq_some_iff.mp hmap
  have hends := entries_of_ends hentries
  have hactor := (hc.ends service _ hends).1
  rw [hactor, Option.bind_some] at hnumber
  exact ⟨hends, hnumber⟩

theorem Concerns.map_arrival? (hc : Concerns options source r m i) (service : String) :
    (r.arrival? service m).map (·.entries) = (r.ending? m).bind (entriesAbout? service) := by
  cases hentries : (r.ending? m).bind (entriesAbout? service) with
  | none => simp [arrival?, hentries]
  | some entries =>
    obtain ⟨hactor, _, _, hanswered⟩ := hc.ends service _ (entries_of_ends hentries)
    obtain ⟨n, _, hlatest, _⟩ := hanswered.latest
    simp [arrival?, hentries, hactor, hlatest]

theorem Concerns.arrived {a : Arrival} (hc : Concerns options source r m i)
    (ha : r.arrival? service m = some a) : Arrived options source (r.perform m) service a := by
  obtain ⟨hends, hlatest⟩ := hc.latest_arrival ha
  obtain ⟨_, _, ⟨t, ht, hservice⟩, hanswered⟩ := hc.ends service _ hends
  obtain ⟨n, q, hn, hq, rfl, hname, hscript⟩ := hanswered.latest
  obtain rfl : n = a.number := Option.some.inj (hn.symm.trans hlatest)
  exact ⟨q, t, hq, ht, hservice, hname, fun answer hanswer => (hscript answer hanswer).symm⟩

theorem Recorded.map_arrivals (h : r.Recorded options source) {moments : List Action}
    (hmoments : ∀ m ∈ moments, m.isSingle = true) (service : String) :
    (r.arrivals service moments).map (·.entries) =
      (r.endings moments).filterMap (entriesAbout? service) := by
  induction moments generalizing r with
  | nil => rfl
  | cons m rest ih =>
    rw [List.forall_mem_cons] at hmoments
    obtain ⟨i, hc⟩ := h.concerns hmoments.1
    rw [arrivals, endings, List.map_append, List.filterMap_append,
      ih (h.perform hmoments.1) hmoments.2]
    congr 1
    rw [← Option.toList_map, hc.map_arrival?]
    cases r.ending? m with
    | none => rfl
    | some e => cases hentries : entriesAbout? service e <;> simp [hentries]

/-! ## The order of arrivals -/

/-- The arrivals so far are recorded, those of one task came in the order of their numbers, and the
query that a task has under way comes after all of them. -/
structure Dated (options : PollingOptions) (source : Catalog) (r : PollingRegistry)
    (service : String) (past : List Arrival) : Prop where
  arrived : ∀ a ∈ past, Arrived options source r service a
  inOrder : past.Pairwise fun a b => r.taskOf a.number = r.taskOf b.number → a.number < b.number
  pending : ∀ i n, r.IsQuerying i → latest? r.queries i = some n →
    ∀ a ∈ past, r.taskOf a.number = some i → a.number < n

theorem Arrived.number_lt {a : Arrival} (h : Arrived options source r service a) :
    a.number < r.queries.length := by
  obtain ⟨q, _, hq, _⟩ := h
  exact (List.getElem?_eq_some_iff.mp hq).1

theorem taskOf_perform (hm : m.isSingle = true) {n : Nat} (hn : n < r.queries.length) :
    (r.perform m).taskOf n = r.taskOf n := by
  rw [taskOf, taskOf, queries_perform hm, List.getElem?_append_left hn]

theorem Arrived.perform {a : Arrival} (h : Arrived options source r service a)
    (hm : m.isSingle = true) : Arrived options source (r.perform m) service a := by
  have hlt := h.number_lt
  obtain ⟨q, t, hq, ht, rfl, hname, hscript⟩ := h
  obtain ⟨t', ht', hservice⟩ := getElem?_tasks_perform hm ht
  refine ⟨q, t', ?_, ht', hservice, hname, ?_⟩
  · rw [queries_perform hm, List.getElem?_append_left hlt, hq]
  · rwa [queries_perform hm, List.take_append_of_le_length (Nat.le_of_lt hlt)]

/-- Before a query of a task ends, it is younger than every query of the task that has arrived. -/
theorem Dated.lt_latest {past : List Arrival} (h : Dated options source r service past)
    (hc : Concerns options source r m i)
    (hgoes : (r.perform m).queries = r.queries → r.IsQuerying i) {n : Nat}
    (hn : latest? (r.perform m).queries i = some n) {a : Arrival} (ha : a ∈ past)
    (htask : r.taskOf a.number = some i) : a.number < n := by
  rcases hc.queries with hsame | ⟨q, hq, hgrows⟩
  · rw [hsame] at hn
    exact h.pending i n (hgoes hsame) hn a ha htask
  · rw [hgrows, latest?_concat, if_pos hq, Option.some.injEq] at hn
    rw [← hn]
    exact (h.arrived a ha).number_lt

theorem latest?_perform_of_ne (hc : Concerns options source r m i) {j : Nat} (hj : j ≠ i) :
    latest? (r.perform m).queries j = latest? r.queries j := by
  rcases hc.queries with hsame | ⟨q, hq, hgrows⟩
  · rw [hsame]
  · rw [hgrows, latest?_concat, if_neg fun hqj => hj (hqj.symm.trans hq)]

theorem taskOf_of_latest? {n : Nat} (h : latest? r.queries i = some n) : r.taskOf n = some i := by
  obtain ⟨⟨q, hq, hqi⟩, _⟩ := latest?_eq_some h
  rw [taskOf, hq, Option.map_some, hqi]

theorem Dated.perform {past : List Arrival} (h : Dated options source r service past)
    (hm : m.isSingle = true) (hc : Concerns options source r m i) :
    Dated options source (r.perform m) service (past ++ (r.arrival? service m).toList) := by
  have htaskOf (a : Arrival) (ha : a ∈ past) :
      (r.perform m).taskOf a.number = r.taskOf a.number :=
    taskOf_perform hm (h.arrived a ha).number_lt
  refine ⟨fun a ha => ?_, List.pairwise_append.mpr ⟨?_, ?_, fun a ha b hb hsame => ?_⟩,
    fun j n hquerying hn a ha htask => ?_⟩
  · rcases List.mem_append.mp ha with ha | ha
    · exact (h.arrived a ha).perform hm
    · exact hc.arrived (Option.mem_toList.mp ha)
  · refine h.inOrder.imp_of_mem fun {a b} ha hb hlt hsame => hlt ?_
    rwa [htaskOf a ha, htaskOf b hb] at hsame
  · cases r.arrival? service m with
    | none => exact List.Pairwise.nil
    | some a => exact List.pairwise_singleton _ a
  · obtain ⟨hends, hlatest⟩ := hc.latest_arrival (Option.mem_toList.mp hb)
    obtain ⟨_, hgoes, _⟩ := hc.ends service _ hends
    rw [htaskOf a ha, taskOf_of_latest? hlatest] at hsame
    exact h.lt_latest hc hgoes hlatest ha hsame
  · by_cases hj : j = i
    · -- The task has a query under way, so that nothing has ended in this moment.
      subst hj
      obtain ⟨hnone, hgoes⟩ := hc.goes hquerying
      have hnothing : r.arrival? service m = none := by simp [arrival?, hnone]
      rw [hnothing, Option.toList_none, List.append_nil] at ha
      rw [htaskOf a ha] at htask
      exact h.lt_latest hc hgoes hn ha htask
    · rw [latest?_perform_of_ne hc hj] at hn
      rcases List.mem_append.mp ha with ha | ha
      · rw [htaskOf a ha] at htask
        exact h.pending j n (hc.others j hj hquerying) hn a ha htask
      · obtain ⟨_, hlatest⟩ := hc.latest_arrival (Option.mem_toList.mp ha)
        rw [taskOf_of_latest? hlatest, Option.some.injEq] at htask
        exact absurd htask.symm hj

theorem Dated.performAll {past : List Arrival} (h : Dated options source r service past)
    (hr : r.Recorded options source) {moments : List Action}
    (hmoments : ∀ m ∈ moments, m.isSingle = true) :
    Dated options source (r.performAll moments) service (past ++ r.arrivals service moments) := by
  induction moments generalizing r past with
  | nil => rwa [arrivals, List.append_nil]
  | cons m rest ih =>
    rw [List.forall_mem_cons] at hmoments
    obtain ⟨i, hc⟩ := hr.concerns hmoments.1
    rw [performAll_cons, arrivals, ← List.append_assoc]
    exact ih (h.perform hmoments.1 hc) (hr.perform hmoments.1) hmoments.2

/-! ## The newest query -/

/-- Of the queries about a service that brought entries, the one that started last is shown. -/
def ShowsNewest (r : PollingRegistry) (service : String) (arrived : List Arrival) : Prop :=
  ∀ a ∈ arrived, (∀ b ∈ arrived, b.number ≤ a.number) →
    r.state.instances service = membersFrom service a.entries

/-- An older query ended after the newest one with other members, and another task made it. -/
def Overtaken (r : PollingRegistry) (service : String) (arrived : List Arrival) : Prop :=
  ∃ a ∈ arrived, ∃ b, arrived.getLast? = some b ∧ (∀ c ∈ arrived, c.number ≤ a.number) ∧
    b.number < a.number ∧ r.taskOf b.number ≠ r.taskOf a.number ∧
    membersFrom service b.entries ≠ membersFrom service a.entries

theorem instances_arrivals {start : PollingRegistry} (h : start.Recorded options source)
    (hempty : start.state.instances service = []) {moments : List Action}
    (hmoments : ∀ m ∈ moments, m.isSingle = true) :
    (start.performAll moments).state.instances service =
      ((start.arrivals service moments).getLast?.map
        fun a => membersFrom service a.entries).getD [] := by
  have hlast : lastEntries? service (start.endings moments) =
      (start.arrivals service moments).getLast?.map (·.entries) := by
    rw [← List.getLast?_map, h.map_arrivals hmoments]
    rfl
  rw [instances_performAll hmoments, hempty, hlast, Option.map_map]
  rfl

/-- What is shown is what ended last. If this is not the newest query, it is older, and as one task
makes one query after the other, another task made it. -/
theorem showsNewest_iff {arrived : List Arrival}
    (hinstances : r.state.instances service =
      (arrived.getLast?.map fun a => membersFrom service a.entries).getD [])
    (hinOrder : arrived.Pairwise fun a b =>
      r.taskOf a.number = r.taskOf b.number → a.number < b.number) :
    r.ShowsNewest service arrived ↔ ¬ r.Overtaken service arrived := by
  constructor
  · rintro hshows ⟨a, ha, b, hlast, hnewest, _, _, hother⟩
    rw [hlast] at hinstances
    exact hother (hinstances.symm.trans (hshows a ha hnewest))
  · intro hnot a ha hnewest
    rcases List.eq_nil_or_concat arrived with rfl | ⟨earlier, b, rfl⟩
    · cases ha
    rw [List.concat_eq_append] at *
    have hlast : (earlier ++ [b]).getLast? = some b := List.getLast?_concat
    rw [hlast] at hinstances
    have hshown : r.state.instances service = membersFrom service b.entries := hinstances
    by_contra hother
    rw [hshown] at hother
    have hearlier : a ∈ earlier := by
      rcases List.mem_append.mp ha with ha | ha
      · exact ha
      · exact absurd (congrArg (fun c => membersFrom service c.entries)
          (List.mem_singleton.mp ha).symm) hother
    have hle : b.number ≤ a.number := hnewest b (by simp)
    have htask : r.taskOf a.number ≠ r.taskOf b.number := fun hsame => by
      have hlt := (List.pairwise_append.mp hinOrder).2.2 a hearlier b (by simp) hsame
      omega
    have hlt : b.number < a.number :=
      Nat.lt_of_le_of_ne hle fun hsame => htask (congrArg r.taskOf hsame.symm)
    exact hnot ⟨a, ha, b, hlast, hnewest, hlt, Ne.symm htask, hother⟩

/-- Whatever happens to a registry happens in moments. The queries about a service that end with
entries in moments were made by tasks of the service, about its alias or its own name, and bring
what the script holds for them; those of one task end in the order in which they started. The
members of the service are what the last one to end brought. Hence the newest one is shown exactly
unless an older one, which another task made, ended after it with other members. -/
theorem newest_shown_iff {catalog : Catalog} {inRuntime : Bool} {start : PollingRegistry}
    (hcreate : create catalog options inRuntime = .ok start) (actions : List Action) :
    let r := start.performAll actions
    start.Reaches r ∧
    ∀ moments, (∀ m ∈ moments, m.isSingle = true) → start.performAll moments = r →
      ∀ service,
        let arrived := start.arrivals service moments
        (∀ a ∈ arrived, Arrived options catalog r service a) ∧
        (arrived.Pairwise fun a b =>
          r.taskOf a.number = r.taskOf b.number → a.number < b.number) ∧
        r.state.instances service =
          (arrived.getLast?.map fun a => membersFrom service a.entries).getD [] ∧
        (r.ShowsNewest service arrived ↔ ¬ r.Overtaken service arrived) ∧
        ∀ i, (∀ a ∈ arrived, r.taskOf a.number = some i) → r.ShowsNewest service arrived := by
  intro r
  have hstart : start.Recorded options catalog := recorded_create hcreate
  refine ⟨hstart.reaches_performAll actions, fun moments hmoments hr service => ?_⟩
  have hnone : Dated options catalog start service [] := ⟨nofun, .nil, nofun⟩
  have hdated := hnone.performAll hstart hmoments
  have hinstances := instances_arrivals hstart (instances_create hcreate service) hmoments
  rw [hr, List.nil_append] at hdated
  rw [hr] at hinstances
  have hiff := showsNewest_iff hinstances hdated.inOrder
  refine ⟨hdated.arrived, hdated.inOrder, hinstances, hiff, fun i htask => hiff.mpr ?_⟩
  rintro ⟨a, ha, b, hlast, _, _, hother, _⟩
  exact hother ((htask b (List.mem_of_getLast? hlast)).trans (htask a ha).symm)

/-- A refresh starts while the poller's first query is under way and ends after it: it is the newest
query, and its entry is shown. -/
theorem newest_shown_iff_in_order :
    let catalog := Catalog.ofLists (Table.empty.set "users"
      [{ delay := 10, result := .ok [⟨"a", 80⟩] }, { delay := 100, result := .ok [⟨"b", 80⟩] }])
    let start : PollingRegistry := { options := {}, catalog, state := State.new 64 }
    let moments : List Action :=
      [.watch 0 "users", .step 0 {}, .pass 1, .beginRefresh "users", .pass 9, .step 0 {}, .pass 91,
        .step 1 {}]
    let r := start.performAll moments
    start.arrivals "users" moments = [⟨0, [⟨"a", 80⟩]⟩, ⟨1, [⟨"b", 80⟩]⟩] ∧
      r.taskOf 0 ≠ r.taskOf 1 ∧ r.state.instances "users" = [⟨"users", "b:80"⟩] := by
  intro catalog start moments r
  have hcreate : create catalog {} true = .ok start := rfl
  have harrived : start.arrivals "users" moments = [⟨0, [⟨"a", 80⟩]⟩, ⟨1, [⟨"b", 80⟩]⟩] := by
    decide
  obtain ⟨_, hall⟩ := newest_shown_iff hcreate moments
  obtain ⟨_, _, _, hiff, _⟩ := hall moments (by decide) rfl "users"
  rw [harrived] at hiff
  have hnot : ¬ r.Overtaken "users" [⟨0, [⟨"a", 80⟩]⟩, ⟨1, [⟨"b", 80⟩]⟩] := by
    rintro ⟨a, ha, b, hlast, _, hlt, _⟩
    obtain rfl : ⟨1, [⟨"b", 80⟩]⟩ = b := Option.some.inj hlast
    simp only [List.mem_cons, List.not_mem_nil, or_false] at ha
    rcases ha with rfl | rfl
    · exact absurd hlt (by decide)
    · exact absurd hlt (by decide)
  have hshown := hiff.mpr hnot ⟨1, [⟨"b", 80⟩]⟩ (by simp) (by decide)
  exact ⟨harrived, by decide, hshown⟩

/-- The poller's first query is slow. A refresh that starts after it ends before it, and what it
brought is shown until the older query ends. -/
theorem older_query_shown :
    let catalog := Catalog.ofLists (Table.empty.set "users"
      [{ delay := 100, result := .ok [⟨"a", 80⟩] }, { delay := 10, result := .ok [⟨"b", 80⟩] }])
    let start : PollingRegistry := { options := {}, catalog, state := State.new 64 }
    let moments : List Action :=
      [.watch 0 "users", .step 0 {}, .pass 1, .beginRefresh "users", .pass 10, .step 1 {}]
    let r := start.performAll moments
    let late : List Action := [.pass 89, .step 0 {}]
    create catalog {} true = .ok start ∧ r.state.instances "users" = [⟨"users", "b:80"⟩] ∧
      start.arrivals "users" (moments ++ late) = [⟨1, [⟨"b", 80⟩]⟩, ⟨0, [⟨"a", 80⟩]⟩] ∧
      (r.performAll late).state.instances "users" = [⟨"users", "a:80"⟩] ∧
      ¬ (r.performAll late).ShowsNewest "users" (start.arrivals "users" (moments ++ late)) := by
  intro catalog start moments r late
  have harrived : start.arrivals "users" (moments ++ late) =
      [⟨1, [⟨"b", 80⟩]⟩, ⟨0, [⟨"a", 80⟩]⟩] := by decide
  have hshown : (r.performAll late).state.instances "users" = [⟨"users", "a:80"⟩] := by decide
  refine ⟨rfl, by decide, harrived, hshown, fun hnewest => ?_⟩
  rw [harrived] at hnewest
  have hother := hnewest ⟨1, [⟨"b", 80⟩]⟩ (by simp) (by decide)
  rw [hshown] at hother
  exact absurd hother (by decide)

end Roster.PollingRegistry
