import Mathlib.Data.List.Chain
import Roster.Proofs.Registry.Tasks

/-!
# The pace of a poller

On the virtual clock a tick is served when it is due, or when the query before it is over, if that
is later. So the queries of a poller keep a schedule which its first query, the period and the
durations of its queries decide (`Tick.schedule`): whatever else happens to the registry does not
come into it.

The invariant `Paced` ties where a poller stands to the tick that it served last. Every moment that
keeps to the clock keeps the invariant (`Paced.perform`), and so do runs (`Paced.performAll`).
-/

namespace Roster

/-! ## Ticks -/

structure Tick where
  due : Nat
  served : Nat

structure Timing where
  start : Nat
  duration : Nat
  deriving DecidableEq, Repr

namespace Tick

/-- The tick after one that is served with a query of a duration. It is served when it is due, or
when the query is over, if that is later. -/
def next (period : Nat) (tick : Tick) (duration : Nat) : Tick :=
  let due := nextTick period tick.due tick.served
  { due, served := max due (tick.served + duration) }

/-- The ticks from one on, each served with a query of the next duration. -/
def schedule (period : Nat) (tick : Tick) : List Nat → List Tick
  | [] => []
  | duration :: rest => tick :: (tick.next period duration).schedule period rest

theorem schedule_concat (period : Nat) (tick : Tick) (durations : List Nat) (duration : Nat) :
    tick.schedule period (durations ++ [duration]) =
      tick.schedule period durations ++ [durations.foldl (next period) tick] := by
  induction durations generalizing tick with
  | nil => rfl
  | cons first rest ih =>
    rw [List.cons_append, schedule, ih, schedule, List.foldl_cons, List.cons_append]

variable {period duration : Nat} {tick : Tick}

theorem next_due_le_served : (tick.next period duration).due ≤ (tick.next period duration).served :=
  Nat.le_max_left _ _

theorem next_served_le (h : tick.due ≤ tick.served) :
    (tick.next period duration).served ≤ tick.served + max period duration := by
  simp only [next, nextTick]
  split <;> omega

/-- A tick that is served late does not bring the next one nearer than the tolerance allows. -/
theorem le_next_served :
    tick.served + period ≤ (tick.next period duration).served + tickTolerance := by
  simp only [next, nextTick]
  split <;> omega

theorem add_duration_le_next_served :
    tick.served + duration ≤ (tick.next period duration).served :=
  Nat.le_max_right _ _

theorem next_of_fast (h : tick.due = tick.served) (hfast : duration ≤ period) :
    tick.next period duration = ⟨tick.served + period, tick.served + period⟩ := by
  have hdue : nextTick period tick.due tick.served = tick.served + period := by
    unfold nextTick
    split <;> omega
  have hserved : max (tick.served + period) (tick.served + duration) = tick.served + period := by
    omega
  simp only [next, hdue, hserved]

end Tick

/-! ## Queries in pace -/

/-- A query is over when another one starts. -/
def Timing.Precedes (q q' : Timing) : Prop := q.start + q.duration ≤ q'.start

instance : Trans Timing.Precedes Timing.Precedes Timing.Precedes where
  trans {_ q _} hfirst hsecond :=
    Nat.le_trans hfirst (Nat.le_trans (Nat.le_add_right q.start q.duration) hsecond)

/-- What lies between two queries of a poller of which one follows the other. -/
structure Timing.Spaced (period : Nat) (q q' : Timing) : Prop where
  apart : q.Precedes q'
  soon : q'.start ≤ q.start + max period q.duration
  paced : q.start + period ≤ q'.start + tickTolerance

/-- Queries are made at the ticks of a poller one after the other. The last one was made at `tick`
and takes `duration`. -/
inductive InPace (period : Nat) : List Timing → Tick → Nat → Prop
  | first (start duration : Nat) : InPace period [⟨start, duration⟩] ⟨start, start⟩ duration
  | next {ts : List Timing} {tick : Tick} {last : Nat} (h : InPace period ts tick last)
      (duration : Nat) :
      InPace period (ts ++ [⟨(tick.next period last).served, duration⟩]) (tick.next period last)
        duration

namespace InPace

variable {period duration : Nat} {ts : List Timing} {tick : Tick}

theorem due_le_served (h : InPace period ts tick duration) : tick.due ≤ tick.served := by
  cases h with
  | first start duration => exact Nat.le_refl start
  | next h duration => exact Tick.next_due_le_served

theorem getLast?_eq (h : InPace period ts tick duration) :
    ts.getLast? = some ⟨tick.served, duration⟩ := by
  cases h with
  | first start duration => rfl
  | next h duration => exact List.getLast?_concat

theorem ne_nil (h : InPace period ts tick duration) : ts ≠ [] := by
  rintro rfl
  cases h.getLast?_eq

/-- Queries in pace start when the schedule says. -/
theorem starts_eq (h : InPace period ts tick duration) :
    ∃ first, ts.head? = some first ∧
      tick.next period duration =
        (ts.map (·.duration)).foldl (Tick.next period) ⟨first.start, first.start⟩ ∧
      ts.map (·.start) =
        (Tick.schedule period ⟨first.start, first.start⟩ (ts.map (·.duration))).map (·.served) := by
  induction h with
  | first start duration => exact ⟨_, rfl, rfl, rfl⟩
  | @next ts tick last h duration ih =>
    obtain ⟨first, hfirst, hnext, hstarts⟩ := ih
    refine ⟨first, ?_, ?_, ?_⟩
    · rw [List.head?_append, hfirst]
      rfl
    · rw [List.map_append, List.foldl_append, ← hnext]
      rfl
    · simp only [List.map_append, List.map_cons, List.map_nil]
      rw [hstarts, Tick.schedule_concat, ← hnext, List.map_append, List.map_cons, List.map_nil]

theorem spaced (h : InPace period ts tick duration) : ts.IsChain (Timing.Spaced period) := by
  induction h with
  | first start duration => exact List.isChain_singleton _
  | @next ts tick last h duration ih =>
    refine List.isChain_append.mpr ⟨ih, List.isChain_singleton _, fun q hq q' hq' => ?_⟩
    rw [h.getLast?_eq] at hq
    cases hq
    cases hq'
    exact ⟨Tick.add_duration_le_next_served, Tick.next_served_le h.due_le_served,
      Tick.le_next_served⟩

/-- If every query is over within the period, each one starts a whole number of periods after the
first. -/
theorem starts_of_fast (h : InPace period ts tick duration)
    (hfast : ∀ q ∈ ts, q.duration ≤ period) :
    ∃ first, ts.head? = some first ∧ tick.due = tick.served ∧
      tick.served + period = first.start + ts.length * period ∧
      ts.map (·.start) = (List.range ts.length).map fun k => first.start + k * period := by
  induction h with
  | first start duration => exact ⟨_, rfl, rfl, by simp, by simp⟩
  | @next ts tick last h duration ih =>
    obtain ⟨first, hfirst, honTime, hserved, hstarts⟩ :=
      ih fun q hq => hfast q (List.mem_append_left _ hq)
    have hlast : last ≤ period :=
      hfast ⟨tick.served, last⟩ (List.mem_append_left _ (List.mem_of_getLast? h.getLast?_eq))
    rw [Tick.next_of_fast honTime hlast, hserved]
    refine ⟨first, ?_, rfl, ?_, ?_⟩
    · rw [List.head?_append, hfirst]
      rfl
    · rw [List.length_append, List.length_singleton, Nat.add_one_mul, Nat.add_assoc]
    · rw [List.map_append, hstarts, List.length_append, List.length_singleton, List.range_succ,
        List.map_append]
      rfl

end InPace

theorem Timing.pairwise_precedes {period : Nat} {ts : List Timing}
    (h : ts.IsChain (Timing.Spaced period)) : ts.Pairwise Timing.Precedes :=
  (h.imp fun _ _ hspaced => hspaced.apart).pairwise

namespace PollingRegistry

variable {options : PollingOptions} {source : Catalog} {r r' : PollingRegistry} {i : Nat}
  {t t' : PollingTask} {m : Action}

/-! ## How long queries take -/

/-- How long a query about a name takes that comes after others. -/
def delayAfter (source : Catalog) (earlier : List QueryRecord) (name : String) : Nat :=
  ((source.script name (source.askedAbout name + earlier.countP (·.name == name))).map
    (·.delay)).getD 0

def timingsAfter (source : Catalog) (i : Nat) (earlier : List QueryRecord) :
    List QueryRecord → List Timing
  | [] => []
  | q :: later =>
    let rest := timingsAfter source i (earlier ++ [q]) later
    if q.task = i then ⟨q.time, delayAfter source earlier q.name⟩ :: rest else rest

def timings (source : Catalog) (queries : List QueryRecord) (i : Nat) : List Timing :=
  timingsAfter source i [] queries

section Timings

variable {queries : List QueryRecord}

theorem timingsAfter_concat (source : Catalog) (i : Nat) (earlier queries : List QueryRecord)
    (q : QueryRecord) :
    timingsAfter source i earlier (queries ++ [q]) =
      timingsAfter source i earlier queries ++
        if q.task = i then [⟨q.time, delayAfter source (earlier ++ queries) q.name⟩] else [] := by
  induction queries generalizing earlier with
  | nil =>
    rw [List.append_nil]
    rfl
  | cons first rest ih =>
    rw [List.cons_append, timingsAfter, ih, List.append_assoc, List.singleton_append, timingsAfter]
    split <;> rfl

theorem timings_concat_self (source : Catalog) (queries : List QueryRecord) {q : QueryRecord}
    (h : q.task = i) :
    timings source (queries ++ [q]) i =
      timings source queries i ++ [⟨q.time, delayAfter source queries q.name⟩] := by
  rw [timings, timingsAfter_concat, if_pos h]
  rfl

theorem timings_concat_of_ne (source : Catalog) (queries : List QueryRecord) {q : QueryRecord}
    (h : q.task ≠ i) : timings source (queries ++ [q]) i = timings source queries i := by
  rw [timings, timingsAfter_concat, if_neg h, List.append_nil]
  rfl

theorem map_start_timings (source : Catalog) (queries : List QueryRecord) (i : Nat) :
    (timings source queries i).map (·.start) =
      (queries.filter (·.task == i)).map (·.time) := by
  have hafter (earlier : List QueryRecord) :
      (timingsAfter source i earlier queries).map (·.start) =
        (queries.filter (·.task == i)).map (·.time) := by
    induction queries generalizing earlier with
    | nil => rfl
    | cons q rest ih =>
      rw [timingsAfter, List.filter_cons]
      by_cases hq : q.task = i <;> simp [hq, ih]
  exact hafter []

theorem timings_eq_nil (h : ∀ q ∈ queries, q.task ≠ i) : timings source queries i = [] := by
  have hnone : queries.filter (·.task == i) = [] := by simpa using h
  have hstarts := map_start_timings source queries i
  rw [hnone] at hstarts
  exact List.map_eq_nil_iff.mp hstarts

end Timings

theorem Recorded.delay_ask (h : r.Recorded options source) (name : String) :
    (r.catalog.ask name).1.delay = delayAfter source r.queries name := by
  show ((r.catalog.script name (r.catalog.askedAbout name)).getD _).delay = _
  rw [h.counted, h.script_eq, delayAfter]
  cases source.script name _ <;> rfl

theorem Recorded.timings_eq_nil (h : r.Recorded options source) :
    timings source r.queries r.tasks.length = [] := by
  refine PollingRegistry.timings_eq_nil fun q hq htask => ?_
  obtain ⟨t, ht, _⟩ := h.named q hq
  rw [htask, List.getElem?_eq_none (Nat.le_refl _)] at ht
  cases ht

/-! ## Where a poller stands -/

/-- The last query of a task is over at `finish`, and the tick after it is due at `next`, if the
task has ticks. -/
def EndsAt (period : Nat) (ts : List Timing) (next : Option Nat) (finish : Nat) : Prop :=
  ∃ tick duration, InPace period ts tick duration ∧ finish = tick.served + duration ∧
    ∀ due, next = some due → due = nextTick period tick.due tick.served

/-- A task stands where its queries say, and the clock has not left it behind. -/
def InStep (period now : Nat) (ts : List Timing) : TaskPhase → Prop
  | .fresh => ts = []
  | .waiting due =>
    ∃ finish, EndsAt period ts (some due) finish ∧ finish ≤ now ∧ now ≤ max due finish
  | .querying next finish _ => EndsAt period ts next finish ∧ now ≤ finish
  | .ended => ∃ finish, EndsAt period ts none finish
  | .failed => False

/-- Every task that is not cancelled stands where its queries say. -/
def Paced (source : Catalog) (r : PollingRegistry) : Prop :=
  ∀ i t, r.tasks[i]? = some t → t.isCancelled = false →
    InStep r.options.period r.now (timings source r.queries i) t.phase

theorem EndsAt.weaken {period finish : Nat} {ts : List Timing} {next : Option Nat}
    (h : EndsAt period ts next finish) : EndsAt period ts none finish := by
  obtain ⟨tick, duration, hpace, hfinish, _⟩ := h
  exact ⟨tick, duration, hpace, hfinish, nofun⟩

theorem exists_tick_of_waiting {period now due : Nat} {ts : List Timing}
    (h : InStep period now ts (.waiting due)) (hdue : due ≤ now) :
    ∃ tick : Tick, tick.due = due ∧ tick.served = now ∧
      ∀ duration, InPace period (ts ++ [⟨now, duration⟩]) tick duration := by
  obtain ⟨finish, ⟨tick, last, hpace, hfinish, hnext⟩, hover, hnow⟩ := h
  have htick : tick.next period last = ⟨due, now⟩ := by
    have hnow' : now = max due (tick.served + last) := by omega
    rw [hnow', hnext due rfl]
    rfl
  refine ⟨⟨due, now⟩, rfl, rfl, fun duration => ?_⟩
  have hpace' := hpace.next duration
  rwa [htick] at hpace'

/-! ## Parts of a moment -/

theorem Paced.congr (h : r.Paced source) (hoptions : r'.options = r.options)
    (hnow : r'.now = r.now) (htasks : r'.tasks = r.tasks) (hqueries : r'.queries = r.queries) :
    r'.Paced source := by
  unfold Paced
  rw [hoptions, hnow, htasks, hqueries]
  exact h

/-- One task may change, and make a query, if it stands right afterwards. -/
theorem Paced.set (h : r.Paced source) (ht : r.tasks[i]? = some t)
    (hoptions : r'.options = r.options) (hnow : r'.now = r.now)
    (htasks : r'.tasks = r.tasks.set i t')
    (hqueries : r'.queries = r.queries ∨
      ∃ q : QueryRecord, q.task = i ∧ r'.queries = r.queries ++ [q])
    (hself : t'.isCancelled = false →
      InStep r.options.period r.now (timings source r'.queries i) t'.phase) :
    r'.Paced source := by
  intro j u hu hkept
  rw [hoptions, hnow]
  rw [htasks] at hu
  by_cases hij : i = j
  · subst hij
    rw [List.getElem?_set_self (List.getElem?_eq_some_iff.mp ht).1, Option.some.injEq] at hu
    subst hu
    exact hself hkept
  · rw [List.getElem?_set_ne hij] at hu
    have hothers : timings source r'.queries j = timings source r.queries j := by
      rcases hqueries with hsame | ⟨q, rfl, hasks⟩
      · rw [hsame]
      · rw [hasks, timings_concat_of_ne source r.queries hij]
    rw [hothers]
    exact h j u hu hkept

theorem Paced.push (h : r.Paced source) (hrecorded : r.Recorded options source)
    (hphase : t.phase = .fresh) :
    ({ r with tasks := r.tasks ++ [t] } : PollingRegistry).Paced source := by
  intro j u hu hkept
  replace hu : (r.tasks ++ [t])[j]? = some u := hu
  by_cases hj : j < r.tasks.length
  · rw [List.getElem?_append_left hj] at hu
    exact h j u hu hkept
  · have hlast : j = r.tasks.length := by
      have hlt := (List.getElem?_eq_some_iff.mp hu).1
      rw [List.length_append, List.length_singleton] at hlt
      omega
    subst hlast
    rw [List.getElem?_concat_length, Option.some.injEq] at hu
    subst hu
    rw [hphase]
    exact hrecorded.timings_eq_nil

theorem inStep_of_endsAt {period now : Nat} {ts : List Timing} {next : Option Nat}
    {phase : TaskPhase} (h : EndsAt period ts next now)
    (hphase : phase = .ended ∨ ∃ due, next = some due ∧ phase = .waiting due) :
    InStep period now ts phase := by
  rcases hphase with rfl | ⟨due, rfl, rfl⟩
  · exact ⟨now, h.weaken⟩
  · exact ⟨now, h, Nat.le_refl now, Nat.le_max_right due now⟩

theorem Paced.completeQuery (h : r.Paced source) (ht : r.tasks[i]? = some t) {next : Option Nat}
    (hover : t.isCancelled = false →
      EndsAt r.options.period (timings source r.queries i) next r.now)
    (result : Except String (List CatalogEntry)) :
    (r.completeQuery i t next result).Paced source := by
  obtain ⟨pollers, phase, rank, waits, ⟨hphase, _⟩, heq⟩ := completeQuery_eq r i t next result
  rw [heq]
  exact h.set ht rfl rfl rfl (Or.inl rfl) fun hkept => inStep_of_endsAt (hover hkept) hphase

theorem Paced.startQuery (h : r.Paced source) (hrecorded : r.Recorded options source)
    (ht : r.tasks[i]? = some t) {next : Option Nat}
    (hself : t.isCancelled = false → ∃ tick : Tick, tick.served = r.now ∧
      (∀ duration, InPace r.options.period (timings source r.queries i ++ [⟨r.now, duration⟩]) tick
        duration) ∧
      ∀ due, next = some due → due = nextTick r.options.period tick.due tick.served) :
    (r.startQuery i t next).Paced source := by
  let answer := (r.catalog.ask (r.backendName t.service)).1
  have htimings : timings source (r.asked i t).queries i =
      timings source r.queries i ++ [⟨r.now, answer.delay⟩] := by
    rw [show answer.delay = _ from hrecorded.delay_ask _]
    exact timings_concat_self source r.queries rfl
  have hends (hkept : t.isCancelled = false) :
      EndsAt r.options.period (timings source (r.asked i t).queries i) next
        (r.now + answer.delay) := by
    obtain ⟨tick, hserved, hpace, hnext⟩ := hself hkept
    rw [htimings]
    exact ⟨tick, answer.delay, hpace answer.delay, by rw [hserved], hnext⟩
  have hasks : ∃ q : QueryRecord, q.task = i ∧
      (r.startQuery i t next).queries = r.queries ++ [q] :=
    ⟨_, rfl, queries_startQuery r i t next⟩
  by_cases hdelay : answer.delay = 0
  · -- The query is over at once.
    obtain ⟨pollers, phase, rank, waits, ⟨hphase, _⟩, heq⟩ :=
      completeQuery_eq (r.asked i t) i t next answer.result
    rw [startQuery_of_instant i next hdelay, heq] at hasks ⊢
    refine h.set ht rfl rfl rfl (Or.inr hasks) fun hkept => ?_
    have hover := hends hkept
    rw [hdelay] at hover
    exact inStep_of_endsAt hover hphase
  · rw [startQuery_of_lasting i next hdelay] at hasks ⊢
    cases hcancelled : t.isCancelled with
    | true =>
      rw [hcancelled, if_pos rfl] at hasks
      rw [if_pos rfl]
      refine h.set ht rfl rfl rfl (Or.inr hasks) fun hkept => ?_
      cases hcancelled.symm.trans hkept
    | false =>
      rw [hcancelled, if_neg Bool.false_ne_true] at hasks
      rw [if_neg Bool.false_ne_true]
      exact h.set ht rfl rfl rfl (Or.inr hasks) fun hkept =>
        ⟨hends hkept, Nat.le_add_right r.now answer.delay⟩

/-! ## Moments -/

theorem Paced.step (h : r.Paced source) (hrecorded : r.Recorded options source)
    (hperiod : 0 < r.options.period) (i : Nat) (choice : StepChoice) :
    (r.step i choice).Paced source := by
  cases ht : r.tasks[i]? with
  | none =>
    rw [step_of_none ht]
    exact h
  | some t =>
    rcases step_cases hperiod ht choice with
      hstay | ⟨hcancelled, hends⟩ | ⟨due, hdue, hphase, hstarts⟩ |
        ⟨next, finish, result, hphase, hfinish, hover⟩
    · rw [hstay]
      exact h
    · rw [hends]
      refine h.set ht rfl rfl rfl (Or.inl rfl) fun hkept => ?_
      cases hcancelled.symm.trans hkept
    · rw [hstarts]
      refine h.startQuery hrecorded ht fun hkept => ?_
      have hstands := h i t ht hkept
      rcases hphase with ⟨hfresh, rfl⟩ | hwaiting
      · rw [hfresh] at hstands
        replace hstands : timings source r.queries i = [] := hstands
        rw [hstands]
        refine ⟨⟨r.now, r.now⟩, rfl, fun duration => .first r.now duration, fun due hdue => ?_⟩
        cases hdue
        rfl
      · rw [hwaiting] at hstands
        obtain ⟨tick, rfl, hserved, hpace⟩ := exists_tick_of_waiting hstands hdue
        refine ⟨tick, hserved, hpace, fun due hdue => ?_⟩
        rw [hserved]
        exact (Option.some.inj hdue).symm
    · rw [hover]
      refine h.completeQuery ht (fun hkept => ?_) result
      have hstands := h i t ht hkept
      rw [hphase] at hstands
      obtain ⟨hends, hnow⟩ := hstands
      obtain rfl : finish = r.now := Nat.le_antisymm hfinish hnow
      exact hends

theorem Paced.subscribe (h : r.Paced source) (hrecorded : r.Recorded options source) (id : Nat)
    (service : String) : (r.subscribe id service).Paced source := by
  unfold PollingRegistry.subscribe ensurePoller
  split
  · exact h.congr rfl rfl rfl rfl
  · have hpushed := h.push hrecorded (t := { service, phase := .fresh, rank := r.waits }) rfl
    exact hpushed.congr rfl rfl rfl rfl

theorem Paced.stop (h : r.Paced source) (id : Nat) : (r.stop id).Paced source := by
  rcases stop_cases r id with hstays | ⟨service, i, _, _, hcancels⟩
  · rw [hstays]
    exact h.congr rfl rfl rfl rfl
  · rw [hcancels, cancel]
    split
    · next t ht =>
      -- What is cancelled keeps no pace any more.
      refine h.set ht rfl rfl rfl (Or.inl rfl) fun hkept => ?_
      cases hkept
    · exact h.congr rfl rfl rfl rfl

theorem Paced.beginRefresh (h : r.Paced source) (hrecorded : r.Recorded options source)
    (service : String) : (r.beginRefresh service).Paced source := by
  have hpushed : ({ r with
      tasks := r.tasks ++ [r.refresher service], waits := r.waits + 1 } :
        PollingRegistry).Paced source :=
    (h.push hrecorded (t := r.refresher service) rfl).congr rfl rfl rfl rfl
  refine hpushed.startQuery (hrecorded.pushRefresher service) List.getElem?_concat_length
    fun _ => ⟨⟨r.now, r.now⟩, rfl, fun duration => ?_, nofun⟩
  have hnone : timings source r.queries r.tasks.length = [] := hrecorded.timings_eq_nil
  rw [hnone]
  exact .first r.now duration

/-- The clock stops for every task that can run. -/
theorem Paced.pass (h : r.Paced source) {ms : Nat} (hpass : r.mayPass ms = true) :
    ({ r with now := r.now + ms } : PollingRegistry).Paced source := by
  intro i t ht hkept
  have hwake := mayPass_iff.mp hpass t (List.mem_of_getElem? ht)
  have hstands := h i t ht hkept
  dsimp only
  unfold PollingTask.wake? at hwake
  cases hphase : t.phase with
  | fresh =>
    rw [hphase] at hstands
    exact hstands
  | waiting due =>
    rw [hphase] at hstands hwake
    have hdue := hwake _ rfl
    rw [hkept, if_neg Bool.false_ne_true] at hdue
    obtain ⟨finish, hends, hfinish, hnow⟩ := hstands
    exact ⟨finish, hends, by omega, by omega⟩
  | querying next finish result =>
    rw [hphase] at hstands hwake
    have hfinish := hwake _ rfl
    rw [hkept, if_neg Bool.false_ne_true] at hfinish
    obtain ⟨hends, hnow⟩ := hstands
    exact ⟨hends, by omega⟩
  | ended =>
    rw [hphase] at hstands
    exact hstands
  | failed =>
    rw [hphase] at hstands
    exact hstands

/-- A moment that keeps to the clock keeps every task in pace. -/
theorem Paced.perform (h : r.Paced source) (hrecorded : r.Recorded options source)
    (hperiod : 0 < r.options.period) (hm : m.isSingle = true) (htimely : m.isTimely r = true) :
    (r.perform m).Paced source := by
  cases m with
  | watch id service => exact h.subscribe hrecorded id service
  | stop id => exact h.stop id
  | receive id limit => exact h.congr rfl rfl rfl rfl
  | dropReceiver id => exact h.congr rfl rfl rfl rfl
  | dropHandle id => exact h
  | beginRefresh service => exact h.beginRefresh hrecorded service
  | refresh service => cases hm
  | step i choice => exact h.step hrecorded hperiod i choice
  | pass ms => exact h.pass htimely
  | advance ms => cases hm

theorem Paced.elapses (h : r.Paced source) (hrecorded : r.Recorded options source)
    (hperiod : 0 < options.period) (hr : r.Elapses r') : r'.Paced source := by
  induction hr with
  | refl => exact h
  | tail hreaches hmoment ih =>
    obtain ⟨m, hm, rfl⟩ := hmoment
    have hrecorded' := hrecorded.elapses hreaches
    exact ih.perform hrecorded' (hrecorded'.options_eq ▸ hperiod) hm.isSingle hm.isTimely

theorem Paced.performAll (h : r.Paced source) (hrecorded : r.Recorded options source)
    (hperiod : 0 < options.period) {actions : List Action}
    (htimely : r.areTimely actions = true) : (r.performAll actions).Paced source := by
  induction actions generalizing r with
  | nil => exact h
  | cons action rest ih =>
    rw [areTimely, Bool.and_eq_true] at htimely
    refine ih ?_ (hrecorded.performActions [action]) htimely.2
    rcases hrecorded.isSingle_or_elapses action with hsingle | ⟨_, helapses⟩
    · exact h.perform hrecorded (hrecorded.options_eq ▸ hperiod) hsingle htimely.1
    · exact h.elapses hrecorded hperiod helapses

theorem paced_create {catalog : Catalog} {inRuntime : Bool}
    (hcreate : create catalog options inRuntime = .ok r) : r.Paced catalog := by
  unfold create at hcreate
  split at hcreate
  · cases hcreate
    exact nofun
  · cases hcreate

/-! ## The pace of a run -/

section InStep

variable {period now : Nat} {ts : List Timing} {phase : TaskPhase}

theorem inPace_of_inStep (h : InStep period now ts phase) (hran : phase ≠ .fresh) :
    ∃ tick duration, InPace period ts tick duration := by
  have hpace {next : Option Nat} {finish : Nat} (hends : EndsAt period ts next finish) :
      ∃ tick duration, InPace period ts tick duration := by
    obtain ⟨tick, duration, hpace, _⟩ := hends
    exact ⟨tick, duration, hpace⟩
  cases phase with
  | fresh => exact absurd rfl hran
  | waiting due =>
    obtain ⟨finish, hends, _⟩ := h
    exact hpace hends
  | querying next finish result => exact hpace h.1
  | ended =>
    obtain ⟨finish, hends⟩ := h
    exact hpace hends
  | failed => cases h

theorem eq_nil_iff_of_inStep (h : InStep period now ts phase) : ts = [] ↔ phase = .fresh := by
  constructor
  · rintro rfl
    by_contra hran
    obtain ⟨tick, duration, hpace⟩ := inPace_of_inStep h hran
    exact hpace.ne_nil rfl
  · rintro rfl
    exact h

theorem EndsAt.exists_last {next : Option Nat} {finish : Nat} (h : EndsAt period ts next finish) :
    ∃ q, ts.getLast? = some q ∧ finish = q.start + q.duration ∧
      ∀ due, next = some due → due ≤ q.start + period := by
  obtain ⟨tick, duration, hpace, hfinish, hnext⟩ := h
  refine ⟨⟨tick.served, duration⟩, hpace.getLast?_eq, hfinish, fun due hdue => ?_⟩
  have hle := hpace.due_le_served
  rw [hnext due hdue, nextTick]
  dsimp only
  split <;> omega

/-- The clock does not pass the time by which the next query starts. -/
theorem now_le_of_inStep {q : Timing} (h : InStep period now ts t.phase) (hlive : t.isOver = false)
    (hq : ts.getLast? = some q) : now ≤ q.start + max period q.duration := by
  unfold PollingTask.isOver at hlive
  cases hphase : t.phase with
  | fresh =>
    rw [hphase] at h
    rw [show ts = [] from h] at hq
    cases hq
  | waiting due =>
    rw [hphase] at h
    obtain ⟨finish, hends, _, hnow⟩ := h
    obtain ⟨q', hlast, hfinish, hdue⟩ := hends.exists_last
    obtain rfl : q' = q := Option.some.inj (hlast.symm.trans hq)
    have hsoon := hdue due rfl
    omega
  | querying next finish result =>
    rw [hphase] at h
    obtain ⟨hends, hnow⟩ := h
    obtain ⟨q', hlast, hfinish, _⟩ := hends.exists_last
    obtain rfl : q' = q := Option.some.inj (hlast.symm.trans hq)
    omega
  | ended =>
    rw [hphase] at hlive
    cases hlive
  | failed =>
    rw [hphase] at hlive
    cases hlive

end InStep

theorem queries_step_of_tick (hperiod : 0 < r.options.period) (ht : r.tasks[i]? = some t)
    (hkept : t.isCancelled = false)
    (htick : t.phase = .fresh ∨ ∃ due ≤ r.now, t.phase = .waiting due) (choice : StepChoice) :
    (r.perform (.step i choice)).queries =
      r.queries ++ [⟨i, r.backendName t.service, r.now⟩] := by
  have hasksAt (due : Nat) (hdue : due ≤ r.now) :
      ∃ next, t.moveAt r.options.period r.now due choice = .ask next := by
    refine ⟨some (nextTick r.options.period due r.now), ?_⟩
    simp only [PollingTask.moveAt, hkept, Bool.false_and, if_neg Bool.false_ne_true,
      if_neg (Nat.not_lt.mpr hdue)]
  have hasks : ∃ next, t.move r.options.period r.now choice = .ask next := by
    unfold PollingTask.move
    rcases htick with hfresh | ⟨due, hdue, hwaiting⟩
    · rw [hfresh]
      dsimp only
      rw [if_neg (Nat.ne_of_gt hperiod)]
      exact hasksAt r.now (Nat.le_refl _)
    · rw [hwaiting]
      exact hasksAt due hdue
  obtain ⟨next, hmove⟩ := hasks
  rw [queries_perform rfl, query?, ht, Option.bind_some, hmove]
  rfl

/-- A poller that is not cancelled makes its first query when it first runs, and one at each tick
that has come. A query is under way for as long as the catalog takes. The queries start when the
schedule says that the first of them, the period and their durations decide. So no two overlap, each
one starts within a period of the one before, or at its end if that is later, none starts more than
the tolerance early, and the next one is not missed. Unless one takes longer than a period, they
start whole periods after the first one. -/
theorem pacing_exact {catalog : Catalog} {inRuntime : Bool} {start : PollingRegistry}
    (hcreate : create catalog options inRuntime = .ok start) (hperiod : 0 < options.period)
    (actions : List Action) (htimely : start.areTimely actions = true)
    (ht : (start.performAll actions).tasks[i]? = some t) (hkept : t.isCancelled = false) :
    let r := start.performAll actions
    let ts := timings catalog r.queries i
    ts.map (·.start) = (r.queries.filter (·.task == i)).map (·.time) ∧
    (ts = [] ↔ t.phase = .fresh) ∧
    (∀ choice, (t.phase = .fresh ∨ ∃ due ≤ r.now, t.phase = .waiting due) →
      (r.perform (.step i choice)).queries =
        r.queries ++ [⟨i, r.backendName t.service, r.now⟩]) ∧
    (∀ next finish result, t.phase = .querying next finish result → r.now ≤ finish ∧
      ∃ q, ts.getLast? = some q ∧ finish = q.start + q.duration) ∧
    (∀ first ∈ ts.head?, ts.map (·.start) =
      (Tick.schedule options.period ⟨first.start, first.start⟩ (ts.map (·.duration))).map
        (·.served)) ∧
    ts.Pairwise Timing.Precedes ∧
    ts.IsChain (Timing.Spaced options.period) ∧
    (t.isOver = false →
      ∀ q ∈ ts.getLast?, r.now ≤ q.start + max options.period q.duration) ∧
    ((∀ q ∈ ts, q.duration ≤ options.period) → ∀ first ∈ ts.head?,
      ts.map (·.start) = (List.range ts.length).map fun k => first.start + k * options.period) := by
  intro r ts
  have hstart : start.Recorded options catalog := recorded_create hcreate
  have hoptions : r.options = options := (hstart.performActions actions).options_eq
  have hstands : InStep options.period r.now ts t.phase := by
    have hpaced : r.Paced catalog := (paced_create hcreate).performAll hstart hperiod htimely
    exact hoptions ▸ hpaced i t ht hkept
  have hnil : ts = [] ↔ t.phase = .fresh := eq_nil_iff_of_inStep hstands
  have hpace {q : Timing} (hq : q ∈ ts) :
      ∃ tick duration, InPace options.period ts tick duration :=
    inPace_of_inStep hstands fun hfresh => List.ne_nil_of_mem hq (hnil.mpr hfresh)
  have hspaced : ts.IsChain (Timing.Spaced options.period) := by
    by_cases hempty : ts = []
    · rw [hempty]
      exact .nil
    · obtain ⟨tick, duration, h⟩ := hpace (List.head_mem hempty)
      exact h.spaced
  refine ⟨map_start_timings catalog r.queries i, hnil,
    fun choice htick => queries_step_of_tick (hoptions ▸ hperiod) ht hkept htick choice,
    fun next finish result hphase => ?querying, fun first hfirst => ?schedule,
    Timing.pairwise_precedes hspaced, hspaced, fun hlive q hq => now_le_of_inStep hstands hlive hq,
    fun hfast first hfirst => ?fast⟩
  case querying =>
    rw [hphase] at hstands
    obtain ⟨q, hlast, hfinish, _⟩ := hstands.1.exists_last
    exact ⟨hstands.2, q, hlast, hfinish⟩
  case schedule =>
    obtain ⟨tick, duration, h⟩ := hpace (List.mem_of_mem_head? hfirst)
    obtain ⟨first', hfirst', _, hstarts⟩ := h.starts_eq
    obtain rfl : first' = first := Option.some.inj (hfirst'.symm.trans hfirst)
    exact hstarts
  case fast =>
    obtain ⟨tick, duration, h⟩ := hpace (List.mem_of_mem_head? hfirst)
    obtain ⟨first', hfirst', _, _, hstarts⟩ := h.starts_of_fast hfast
    obtain rfl : first' = first := Option.some.inj (hfirst'.symm.trans hfirst)
    exact hstarts

/-- The second query takes two and a half periods and the third one a little more than one, and a
refresh is under way from 120 to 620. The poller still starts its queries at the ticks of the
schedule. -/
theorem pacing_exact_slow :
    let catalog := Catalog.ofLists (Table.empty.set "users"
      [{ delay := 40, result := .ok [⟨"a", 80⟩] }, { delay := 250, result := .error "down" },
        { delay := 500, result := .ok [] }, { delay := 103, result := .ok [⟨"a", 80⟩] },
        { delay := 10, result := .ok [⟨"b", 80⟩] }, { delay := 0, result := .ok [] }])
    let start : PollingRegistry :=
      { options := { period := 100 }, catalog, state := State.new 64 }
    let actions : List Action :=
      [.watch 0 "users", .advance 120, .beginRefresh "users", .advance 440]
    let r := start.performAll actions
    let ts := timings catalog r.queries 0
    start.areTimely actions = true ∧
      ts.map (·.duration) = [40, 250, 103, 10, 0] ∧
      (Tick.schedule 100 ⟨0, 0⟩ [40, 250, 103, 10, 0]).map (·.served) = [0, 100, 350, 453, 550] ∧
      ts.map (·.start) = [0, 100, 350, 453, 550] ∧
      ts.IsChain (Timing.Spaced 100) := by
  intro catalog start actions r ts
  have hcreate : create catalog { period := 100 } true = .ok start := rfl
  have htimely : start.areTimely actions = true := by decide +kernel
  obtain ⟨t, ht, hkept⟩ : ∃ t, r.tasks[0]? = some t ∧ t.isCancelled = false := by
    have hkept : (r.tasks[0]?).map (·.isCancelled) = some false := by decide +kernel
    exact Option.map_eq_some_iff.mp hkept
  obtain ⟨_, _, _, _, hschedule, _, hspaced, _⟩ :=
    pacing_exact hcreate (by decide) actions htimely ht hkept
  have hdurations : ts.map (·.duration) = [40, 250, 103, 10, 0] := by decide +kernel
  have hserved : (Tick.schedule 100 ⟨0, 0⟩ [40, 250, 103, 10, 0]).map (·.served) =
      [0, 100, 350, 453, 550] := by decide
  have hfirst : ts.head? = some ⟨0, 40⟩ := by decide +kernel
  have hstarts : ts.map (·.start) = [0, 100, 350, 453, 550] := by
    rw [hschedule _ hfirst, hdurations]
    exact hserved
  exact ⟨htimely, hdurations, hserved, hstarts, hspaced⟩

end PollingRegistry

end Roster
