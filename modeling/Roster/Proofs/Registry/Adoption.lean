import Roster.Proofs.Registry.Clock

/-!
# Members come from queries

To let time pass takes no more than moments (`Recorded.reaches_perform`), and of all that can happen
in a moment only the end of a query with entries changes members, those of its own service
(`instances_perform_moment`). So the members of a service are those of the last query about it that
brought entries (`instances_performAll`). The main theorem puts this together with the account of
queries (`members_exact`).
-/

namespace Roster.PollingRegistry

variable {options : PollingOptions} {source : Catalog} {r r' r'' : PollingRegistry}
  {service : String}

theorem performAll_append (r : PollingRegistry) (as bs : List Action) :
    r.performAll (as ++ bs) = (r.performAll as).performAll bs :=
  List.foldl_append

/-! ## Moments after moments -/

/-- One registry becomes another one in single moments. -/
def Reaches (r r' : PollingRegistry) : Prop :=
  ∃ moments : List Action, (∀ m ∈ moments, m.isSingle = true) ∧ r.performAll moments = r'

theorem Reaches.refl (r : PollingRegistry) : r.Reaches r := ⟨[], nofun, rfl⟩

theorem Reaches.trans (h : r.Reaches r') (h' : r'.Reaches r'') : r.Reaches r'' := by
  obtain ⟨moments, hmoments, rfl⟩ := h
  obtain ⟨later, hlater, rfl⟩ := h'
  refine ⟨moments ++ later, fun m hm => ?_, performAll_append r moments later⟩
  rcases List.mem_append.mp hm with hm | hm
  · exact hmoments m hm
  · exact hlater m hm

theorem reaches_of_isSingle (r : PollingRegistry) {m : Action} (hm : m.isSingle = true) :
    r.Reaches (r.perform m) :=
  ⟨[m], fun _ hm' => List.mem_singleton.mp hm' ▸ hm, rfl⟩

theorem Elapses.reaches (h : r.Elapses r') : r.Reaches r' := by
  induction h with
  | refl => exact .refl r
  | tail _ hmoment ih =>
    obtain ⟨m, hm, rfl⟩ := hmoment
    exact ih.trans (reaches_of_isSingle _ hm.isSingle)

theorem Recorded.reaches (h : r.Recorded options source) (hr : r.Reaches r') :
    r'.Recorded options source := by
  obtain ⟨moments, hmoments, rfl⟩ := hr
  exact h.performAll hmoments

theorem Recorded.reaches_perform (h : r.Recorded options source) (action : Action) :
    r.Reaches (r.perform action) := by
  rcases h.isSingle_or_elapses action with hsingle | ⟨_, helapses⟩
  · exact reaches_of_isSingle r hsingle
  · exact helapses.reaches

theorem Recorded.reaches_performAll (h : r.Recorded options source) (actions : List Action) :
    r.Reaches (r.performAll actions) := by
  induction actions generalizing r with
  | nil => exact .refl r
  | cons action rest ih =>
    have hfirst := h.reaches_perform action
    exact hfirst.trans (ih (h.reaches hfirst))

theorem Recorded.performActions (h : r.Recorded options source) (actions : List Action) :
    (r.performAll actions).Recorded options source :=
  h.reaches (h.reaches_performAll actions)

/-! ## The members of a service -/

/-- The members of a service that entries stand for: their addresses in turn, each one once. -/
def membersFrom (service : String) (entries : List CatalogEntry) : List Instance :=
  distinct (entries.map fun e => ⟨service, e.address⟩)

/-- The entries of the last query about a service that brought any. -/
def lastEntries? (service : String) (es : List (String × Ending)) : Option (List CatalogEntry) :=
  (es.filterMap fun e => if e.1 = service then e.2.entries? else none).getLast?

/-- The queries that end in moments, in turn: about which service, and how. -/
def endings (r : PollingRegistry) : List Action → List (String × Ending)
  | [] => []
  | m :: rest => (r.ending? m).toList ++ (r.perform m).endings rest

theorem lastEntries?_append (service : String) (es es' : List (String × Ending)) :
    lastEntries? service (es ++ es') =
      (lastEntries? service es').or (lastEntries? service es) := by
  rw [lastEntries?, List.filterMap_append, List.getLast?_append]
  rfl

theorem instances_byUser (s : State) (m : Action) (service : String) :
    (s.performAll m.byUser?.toList).instances service = s.instances service := by
  cases m with
  | watch id service' => exact s.instances_perform (.subscribe id service') service
  | stop id => exact s.instances_perform (.stop id) service
  | receive id limit => exact s.instances_perform (.receive id limit) service
  | dropReceiver id => exact s.instances_perform (.dropReceiver id) service
  | _ => rfl

theorem instances_commit? (s : State) (service service' : String) (e : Ending) :
    (s.performAll (e.commit? service').toList).instances service =
      ((lastEntries? service [(service', e)]).map (membersFrom service)).getD
        (s.instances service) := by
  unfold Ending.commit? lastEntries?
  cases hentries : e.entries? with
  | none => simp [hentries]
  | some entries =>
    refine (s.instances_commit service' service _).trans ?_
    split
    · next heq =>
      subst heq
      simp [hentries, membersFrom]
    · next hne => simp [hne]

/-- Only the end of a query with entries changes members, and only those of its service. -/
theorem instances_perform_moment (r : PollingRegistry) {m : Action} (hm : m.isSingle = true)
    (service : String) :
    (r.perform m).state.instances service =
      ((lastEntries? service (r.ending? m).toList).map (membersFrom service)).getD
        (r.state.instances service) := by
  rw [r.state_perform hm]
  cases hends : r.ending? m with
  | none =>
    rw [onState?_of_none hends]
    exact instances_byUser r.state m service
  | some ending =>
    rw [onState?_of_ending hends]
    exact instances_commit? r.state service ending.1 ending.2

theorem instances_create {catalog : Catalog} {inRuntime : Bool}
    (hcreate : create catalog options inRuntime = .ok r) (service : String) :
    r.state.instances service = [] := by
  unfold create at hcreate
  split at hcreate
  · cases hcreate
    rfl
  · cases hcreate

/-- After moments the members of a service are those of the last query about it that brought
entries, and what they were if there was none. -/
theorem instances_performAll {moments : List Action}
    (hmoments : ∀ m ∈ moments, m.isSingle = true) (service : String) :
    (r.performAll moments).state.instances service =
      ((lastEntries? service (r.endings moments)).map (membersFrom service)).getD
        (r.state.instances service) := by
  induction moments generalizing r with
  | nil => rfl
  | cons m rest ih =>
    rw [List.forall_mem_cons] at hmoments
    rw [performAll_cons, ih hmoments.2, instances_perform_moment r hmoments.1, endings,
      lastEntries?_append]
    cases lastEntries? service ((r.perform m).endings rest) <;> rfl

/-! ## What a moment may touch -/

/-- The entries of a query about a service were adopted: its members are what the entries stand for,
the difference waits for its subscriptions as far as there is room, and nothing else changed. -/
structure Adopts (s s' : State) (service : String) (entries : List CatalogEntry) : Prop where
  instances_eq : s'.instances service = membersFrom service entries
  elsewhere : ∀ service', service' ≠ service → s'.instances service' = s.instances service'
  subscriptions_eq : s'.subscriptions = s.subscriptions.map fun sub =>
    if sub.service = service then
      sub.informed (difference (s.instances service) (membersFrom service entries))
    else sub
  buffer_eq : s'.buffer = s.buffer

theorem adopts_commit (s : State) (service : String) (entries : List CatalogEntry) :
    Adopts s (s.commit service (entries.map fun e => ⟨service, e.address⟩)).2 service entries where
  instances_eq := by
    rw [State.instances_commit, if_pos rfl]
    rfl
  elsewhere service' hne := by
    rw [State.instances_commit, if_neg (Ne.symm hne)]
  subscriptions_eq := by
    refine List.map_congr_left fun sub _ => ?_
    split
    · next heq => exact Subscription.notify_eq_informed heq _
    · next hne => exact Subscription.notify_of_ne hne _
  buffer_eq := rfl

/-- Every query is about the alias of its task's service, looked up once, or about the service
itself, and whatever happens to a registry happens in moments. A moment in which a query ends with
entries makes them the members of its service and touches no other service; if the query fails or is
given up, nothing changes, and if none ends, members and subscriptions see what the user does and no
more. So the members of a service are always those of the last query about it that brought entries.
-/
theorem members_exact {catalog : Catalog} {inRuntime : Bool} {start : PollingRegistry}
    (hcreate : create catalog options inRuntime = .ok start) (actions : List Action) :
    let r := start.performAll actions
    (∀ q ∈ r.queries, ∃ t, r.tasks[q.task]? = some t ∧
      q.name = (options.aliases.get? t.service).getD t.service) ∧
    (∀ action, r.Reaches (r.perform action)) ∧
    (∀ m service e, m.isSingle = true → r.ending? m = some (service, e) →
      Ended options catalog (r.perform m) service e ∧
        match e with
        | .completed (.ok entries) => Adopts r.state (r.perform m).state service entries
        | .completed (.error _) => (r.perform m).state = r.state
        | .abandoned => (r.perform m).state = r.state) ∧
    (∀ m, m.isSingle = true → r.ending? m = none →
      (r.perform m).state = r.state.performAll m.byUser?.toList) ∧
    start.Reaches r ∧
    ∀ moments, (∀ m ∈ moments, m.isSingle = true) → start.performAll moments = r →
      ∀ service, r.state.instances service =
        ((lastEntries? service (start.endings moments)).map (membersFrom service)).getD [] := by
  intro r
  have hstart : start.Recorded options catalog := recorded_create hcreate
  have hreaches : start.Reaches r := hstart.reaches_performAll actions
  have h : r.Recorded options catalog := hstart.reaches hreaches
  refine ⟨h.named, h.reaches_perform, fun m service e hm hends => ⟨h.ended hends, ?ends⟩,
    fun m hm hends => ?goes, hreaches, fun moments hmoments hr service => ?members⟩
  case ends =>
    have hstate := r.state_perform hm
    rw [onState?_of_ending hends] at hstate
    split
    · next entries =>
      rw [hstate]
      exact adopts_commit r.state service entries
    · exact hstate
    · exact hstate
  case goes =>
    rw [r.state_perform hm, onState?_of_none hends]
  case members =>
    have hempty : start.state.instances service = [] := instances_create hcreate service
    rw [← hr, instances_performAll hmoments, hempty]

/-- Two services have one alias, which is an alias itself but not looked up again. The first query
about accounts fails and the second one brings an entry; the members of users stay as they are. -/
theorem members_exact_shared_alias :
    let catalog := Catalog.ofLists (Table.empty.set "pool"
      [{ delay := 10, result := .ok [⟨"a", 80⟩, ⟨"b", 80⟩, ⟨"a", 80⟩] },
        { result := .error "down" },
        { delay := 5, result := .ok [⟨"c", 80⟩] }])
    let options : PollingOptions :=
      { aliases := ((Table.empty.set "users" "pool").set "accounts" "pool").set "pool" "none" }
    let start : PollingRegistry := { options, catalog, state := State.new 64 }
    let actions : List Action :=
      [.watch 0 "users", .step 0 {}, .pass 10, .step 0 {}, .watch 1 "accounts", .step 1 {},
        .beginRefresh "accounts", .pass 5]
    let r := start.performAll actions
    let next := r.perform (.step 2 {})
    r.queries.map (·.name) = ["pool", "pool", "pool"] ∧
      r.state.instances "accounts" = [] ∧
      next.state.instances "accounts" = [⟨"accounts", "c:80"⟩] ∧
      next.state.instances "users" = [⟨"users", "a:80"⟩, ⟨"users", "b:80"⟩] := by
  intro catalog options start actions r next
  have hcreate : create catalog options true = .ok start := rfl
  obtain ⟨_, _, hmoment, _, _, hmembers⟩ := members_exact hcreate actions
  have hlast := hmembers actions (by decide) rfl
  have husers : lastEntries? "users" (start.endings actions) =
      some [⟨"a", 80⟩, ⟨"b", 80⟩, ⟨"a", 80⟩] := by decide
  have haccounts : lastEntries? "accounts" (start.endings actions) = none := by decide
  have hends : r.ending? (.step 2 {}) = some ("accounts", .completed (.ok [⟨"c", 80⟩])) := by
    have hentries : (r.ending? (.step 2 {})).map (fun e => (e.1, e.2.entries?)) =
        some ("accounts", some [⟨"c", 80⟩]) := by decide
    obtain ⟨⟨about, e⟩, hends, heq⟩ := Option.map_eq_some_iff.mp hentries
    obtain ⟨rfl, he⟩ := Prod.mk.inj heq
    obtain rfl : e = .completed (.ok [⟨"c", 80⟩]) := Ending.completed_of_entries? he
    exact hends
  obtain ⟨_, hadopts⟩ := hmoment (.step 2 {}) "accounts" _ rfl hends
  have hqueries : r.queries.map (·.name) = ["pool", "pool", "pool"] := by decide
  have hbefore : r.state.instances "accounts" = [] := by
    rw [hlast, haccounts]
    rfl
  have hkept : next.state.instances "users" = [⟨"users", "a:80"⟩, ⟨"users", "b:80"⟩] := by
    rw [hadopts.elsewhere "users" (by decide), hlast, husers]
    rfl
  have hafter : next.state.instances "accounts" = [⟨"accounts", "c:80"⟩] := by
    rw [hadopts.instances_eq]
    rfl
  exact ⟨hqueries, hbefore, hafter, hkept⟩

end Roster.PollingRegistry
