import Roster.Proofs.Connections.Upkeep
import Roster.Proofs.Convergence

/-!
# What a dialing comes to

A dialer knows of each scheme and each policy what was registered for it last
(`get?_resolvers_registered`, `get?_balancers_registered`). `dialing` is dialing step by step: each
step finds the dialer and the connector's record as the one before left them, whether or not the
dialing succeeds in the end, and a step may break down. It agrees with `Dialer.dial`
(`run_dialing`), so a dialing that fails does so before its first step that changes anything. One
that succeeds has made one subscription, and has called the connector for each member once
(`opened_watch`).
-/

namespace Roster

variable {σ C : Type}

namespace Connections

/-! ## Connecting to members of distinct addresses -/

variable {held : Table C} {visits : List (Visit C)}

theorem Visited.isSome_outcome (h : Visited Table.empty held visits)
    (hdistinct : ((visits.map Visit.member).map (·.address)).Nodup) {v : Visit C}
    (hv : v ∈ visits) : v.outcome.isSome = true := by
  obtain ⟨earlier, later, rfl⟩ := List.append_of_mem hv
  refine (h.called_iff earlier v later rfl).mpr ⟨rfl, fun u hu c hmakes => ?_⟩
  rw [List.map_append, List.map_append, List.map_cons, List.map_cons] at hdistinct
  exact (List.nodup_append.mp hdistinct).2.2 _ (List.mem_map_of_mem (List.mem_map_of_mem hu)) _
    List.mem_cons_self hmakes.1

theorem Visited.map_member_calls (h : Visited Table.empty held visits)
    (hdistinct : ((visits.map Visit.member).map (·.address)).Nodup) :
    (visits.filterMap Visit.attempt?).map Attempt.member = visits.map Visit.member := by
  have hcalled (v : Visit C) (hv : v ∈ visits) :
      v.attempt?.map Attempt.member = some v.member := by
    obtain ⟨result, hresult⟩ := Option.isSome_iff_exists.mp (h.isSome_outcome hdistinct hv)
    rw [Visit.attempt?, hresult]
    rfl
  rw [List.map_filterMap, List.filterMap_congr hcalled, List.filterMap_eq_map']

theorem Visited.isSome_get?_iff (h : Visited Table.empty held visits) (a : String) :
    (held.get? a).isSome = true ↔
      ∃ call ∈ visits.filterMap Visit.attempt?, call.result.isOk = true ∧
        call.member.address = a := by
  rw [Option.isSome_iff_exists]
  constructor
  · rintro ⟨c, hc⟩
    rcases (h.held_iff a c).mp hc with hnone | ⟨v, hv, haddress, hmade⟩
    · cases hnone
    · exact ⟨⟨v.member, .ok c⟩, List.mem_filterMap.mpr ⟨v, hv, by rw [Visit.attempt?, hmade]; rfl⟩,
        rfl, haddress⟩
  · rintro ⟨call, hcall, hok, haddress⟩
    obtain ⟨v, hv, hattempt⟩ := List.mem_filterMap.mp hcall
    obtain ⟨result, hresult, rfl⟩ := Option.map_eq_some_iff.mp hattempt
    cases result with
    | error e => cases hok
    | ok c => exact ⟨c, (h.held_iff a c).mpr (Or.inr ⟨v, hv, haddress, hresult⟩)⟩

/-- If all members have their own addresses, the connector is called for each of them once, and the
connections are those that it made. -/
theorem calls_connectAll (connect : Connector σ C) (w : σ) {members : List Instance}
    (hdistinct : (members.map (·.address)).Nodup) :
    ∃ calls : List (Attempt C), calls.map Attempt.member = members ∧
      (connectAll (recording connect) Table.empty (w, []) members).2.2 = calls ∧
      (connectAll (recording connect) Table.empty (w, []) members).1.keys.Perm
        ((calls.filter (·.result.isOk)).map (·.member.address)) := by
  obtain ⟨visits, rfl, hvisited, hlog⟩ := visited_connectAll connect Table.empty (w, []) members
  have hmembers := hvisited.map_member_calls hdistinct
  refine ⟨visits.filterMap Visit.attempt?, hmembers, hlog, ?_⟩
  have hcalls : ((visits.filterMap Visit.attempt?).map (·.member.address)).Nodup := by
    rw [← hmembers, List.map_map] at hdistinct
    exact hdistinct
  refine (List.perm_ext_iff_of_nodup (Table.distinct _)
    (hcalls.sublist (List.filter_sublist.map _))).mpr fun a => ?_
  rw [← Table.keys, Table.mem_keys_iff, hvisited.isSome_get?_iff, List.mem_map]
  simp only [List.mem_filter, and_assoc]

/-- A new channel that was handed members is ready at the addresses for which a call of the
connector made a connection. -/
theorem readyAddresses_sink_new (connect : Connector σ C) (options : ShardOptions) (w : σ)
    {members : List Instance} (hdistinct : (members.map (·.address)).Nodup) :
    let next := (sink (recording connect) (new options, w, []) members).2
    next.2.2.map Attempt.member = members ∧
      next.1.readyAddresses =
        ((next.2.2.filter (·.result.isOk)).map (·.member.address)).mergeSort (· ≤ ·) := by
  intro next
  obtain ⟨calls, hmembers, rfl, hkeys⟩ := calls_connectAll connect w hdistinct
  have hnext : next = _ := congrArg Prod.snd (sink_of_open rfl)
  rw [hnext]
  refine ⟨hmembers, ?_⟩
  obtain ⟨hheld, hunready, _⟩ := renewed_eq (new options : Connections C)
    ((new options).bringIn (recording connect) (w, []) members).1
  have hready : ((new options : Connections C).renewed
      ((new options).bringIn (recording connect) (w, []) members).1).ready =
        (connectAll (recording connect) Table.empty (w, []) members).1 := by
    rw [ready, hheld, hunready]
    exact Table.ext (List.filter_true _)
  rw [readyAddresses, hready]
  exact mergeSort_le_eq_of_perm hkeys

end Connections

namespace Dialer

/-! ## Registrations -/

/-- What is registered with a dialer: the place of a registry for a scheme, or a way of balancing
for a policy. -/
inductive Registration where
  | resolver (scheme : String) (place : Nat)
  | balancer (policy : String) (options : ShardOptions)

def Registration.resolver? : Registration → Option (String × Nat)
  | .resolver scheme place => some (scheme, place)
  | .balancer _ _ => none

def Registration.balancer? : Registration → Option (String × ShardOptions)
  | .resolver _ _ => none
  | .balancer policy options => some (policy, options)

def register (d : Dialer) : Registration → Dialer
  | .resolver scheme place => d.registerResolver scheme place
  | .balancer policy options => d.registerBalancer policy options

def registered (registries : List Registry) (registrations : List Registration) : Dialer :=
  registrations.foldl register { registries }

theorem registered_eq (registries : List Registry) (registrations : List Registration) :
    registered registries registrations =
      { registries
        resolvers := Table.ofList (registrations.filterMap (·.resolver?))
        balancers := Table.ofList (registrations.filterMap (·.balancer?)) } := by
  induction registrations using List.reverseRecOn with
  | nil => rfl
  | append_singleton registrations last ih =>
    rw [registered, List.foldl_append, List.foldl_cons, List.foldl_nil, ← registered, ih,
      List.filterMap_append, List.filterMap_append]
    cases last with
    | resolver scheme place =>
      simp only [Registration.resolver?, Registration.balancer?, List.filterMap_cons,
        List.filterMap_nil, List.append_nil, Table.ofList_concat]
      rfl
    | balancer policy options =>
      simp only [Registration.resolver?, Registration.balancer?, List.filterMap_cons,
        List.filterMap_nil, List.append_nil, Table.ofList_concat]
      rfl

/-! ## Dialing step by step -/

/-- Work on a dialer and on what the connector records. It may end with an error, which takes
nothing back, or break down. -/
abbrev Work (σ α : Type) := ExceptT RoutingError (StateT (Dialer × σ) Option) α

namespace Work

variable {α β : Type}

/-- What comes of work: nothing if it breaks down, and otherwise its answer with what it leaves. -/
def outcome (work : Work σ α) (s : Dialer × σ) : Option (Except RoutingError α × Dialer × σ) :=
  work.run.run s

/-- Work that breaks down. -/
def breakDown : Work σ α := ExceptT.lift fun _ => none

@[simp] theorem outcome_pure (a : α) (s : Dialer × σ) :
    outcome (pure a : Work σ α) s = some (.ok a, s) := rfl

@[simp] theorem outcome_get (s : Dialer × σ) : outcome (get : Work σ _) s = some (.ok s, s) := rfl

@[simp] theorem outcome_set (s s' : Dialer × σ) :
    outcome (set s' : Work σ Unit) s = some (.ok (), s') := rfl

@[simp] theorem outcome_liftExcept (x : Except RoutingError α) (s : Dialer × σ) :
    outcome (liftExcept x : Work σ α) s = some (x, s) := by
  cases x <;> rfl

theorem outcome_bind (work : Work σ α) (f : α → Work σ β) (s : Dialer × σ) :
    outcome (work >>= f) s =
      match outcome work s with
      | none => none
      | some (.ok a, s') => outcome (f a) s'
      | some (.error e, s') => some (.error e, s') := by
  show (StateT.run (ExceptT.run (work >>= f)) s) = _
  rw [ExceptT.run_bind, StateT.run_bind]
  unfold outcome
  cases StateT.run (ExceptT.run work) s with
  | none => rfl
  | some x =>
    obtain ⟨answer, s'⟩ := x
    cases answer <;> rfl

end Work

def watching (source id : Nat) (service : String) : Work σ Unit := do
  let (d, w) ← get
  if (d.registryAt source).canWatch service then
    set (d.setRegistry source ((d.registryAt source).watch id service), w)
  else .breakDown

def handingOn (connect : Connector σ C) (source : Nat) (service : String) (c : Connections C) :
    Work σ (Connections C) := do
  let (d, w) ← get
  let (c, w) := (Connections.sink connect (c, w) ((d.registryAt source).instances service)).2
  set (d, w)
  return c

/-- Starts a resolver: first the subscription, then the members. -/
def starting (connect : Connector σ C) (inRuntime : Bool) (source : Nat) (service : String)
    (c : Connections C) : Work σ (Resolver × Connections C) := do
  if !inRuntime then
    throw (.config "registry resolver must be built inside a tokio runtime")
  let (d, _) ← get
  let r : Resolver := { service, watcher := (d.registryAt source).nextId }
  watching source r.watcher service
  let c ← handingOn connect source service c
  return (r, c)

/-- Dials a target under a policy. -/
def dialing (connect : Connector σ C) (inRuntime : Bool) (target policy : String) :
    Work σ (Dialed C) := do
  let target ← liftExcept (Target.parse target)
  let (d, _) ← get
  let some source := d.resolvers.get? target.scheme | throw (.unknownScheme target.scheme)
  let some options := d.balancers.get? policy | throw (.unknownPolicy policy)
  let (resolver, connections) ←
    starting connect inRuntime source target.endpoint (Connections.new options)
  return { target, source, connections, resolver }

/-- What is left of a dialing that does not break down: its answer, and the dialer and the record
after it. One that fails leaves them as they were. -/
def outcome (d : Dialer) (w : σ) :
    Except RoutingError (Dialed C × Dialer × σ) → Except RoutingError (Dialed C) × Dialer × σ
  | .ok (channel, d', w') => (.ok channel, d', w')
  | .error e => (.error e, d, w)

theorem instances_watch (d : Dialer) (source id : Nat) (service : String) :
    ((d.setRegistry source ((d.registryAt source).watch id service)).registryAt source).instances
        service =
      ((d.registryAt source).watch id service).instances service := by
  by_cases h : source < d.registries.length
  · rw [registryAt_setRegistry h]
  · rw [setRegistry, List.set_eq_of_length_le (Nat.le_of_not_lt h), Registry.instances,
      Registry.instances, Registry.state_watch]
    rfl

theorem run_watching (d : Dialer) (w : σ) (source id : Nat) (service : String) :
    (watching source id service : Work σ Unit).outcome (d, w) =
      if (d.registryAt source).canWatch service then
        some (.ok (), d.setRegistry source ((d.registryAt source).watch id service), w)
      else none := by
  simp only [watching, Work.outcome_bind, Work.outcome_get]
  split <;> rfl

theorem run_handingOn (connect : Connector σ C) (d : Dialer) (w : σ) (source : Nat)
    (service : String) (c : Connections C) :
    (handingOn connect source service c).outcome (d, w) =
      let next := (Connections.sink connect (c, w) ((d.registryAt source).instances service)).2
      some (.ok next.1, d, next.2) := by
  simp only [handingOn, Work.outcome_bind, Work.outcome_get, Work.outcome_set, Work.outcome_pure]

theorem run_starting (connect : Connector σ C) (d : Dialer) (w : σ) (source : Nat)
    (service : String) (c : Connections C) :
    (starting connect true source service c).outcome (d, w) =
      if (d.registryAt source).canWatch service then
        let r := d.registryAt source
        let members := (r.watch r.nextId service).instances service
        let next := (Connections.sink connect (c, w) members).2
        some (.ok ({ service, watcher := r.nextId }, next.1),
          d.setRegistry source (r.watch r.nextId service), next.2)
      else none := by
  unfold starting
  simp only [Bool.not_true, Bool.false_eq_true, if_false, Work.outcome_bind, Work.outcome_get,
    Work.outcome_pure, run_watching]
  cases (d.registryAt source).canWatch service with
  | false => rfl
  | true => simp only [if_true, run_handingOn, instances_watch]

section Cases

variable {d : Dialer} {connect : Connector σ C} {w : σ} {inRuntime : Bool}
  {target policy : String} {e : RoutingError} {t : Target} {source : Nat} {options : ShardOptions}

theorem dial_of_parse_eq_error (htarget : Target.parse target = .error e) :
    d.dial connect w inRuntime target policy = .error e := by
  unfold dial
  rw [htarget]
  rfl

theorem dial_of_unknownScheme (htarget : Target.parse target = .ok t)
    (hsource : d.resolvers.get? t.scheme = none) :
    d.dial connect w inRuntime target policy = .error (.unknownScheme t.scheme) := by
  unfold dial
  rw [htarget]
  simp only [bind, Except.bind, hsource]

theorem dial_of_unknownPolicy (htarget : Target.parse target = .ok t)
    (hsource : d.resolvers.get? t.scheme = some source)
    (hoptions : d.balancers.get? policy = none) :
    d.dial connect w inRuntime target policy = .error (.unknownPolicy policy) := by
  unfold dial
  rw [htarget]
  simp only [bind, Except.bind, hsource, hoptions]

theorem dial_of_known (htarget : Target.parse target = .ok t)
    (hsource : d.resolvers.get? t.scheme = some source)
    (hoptions : d.balancers.get? policy = some options) :
    d.dial connect w inRuntime target policy =
      if inRuntime then
        let r := d.registryAt source
        let watched := r.watch r.nextId t.endpoint
        let next := (Connections.sink connect (Connections.new options, w)
          (watched.instances t.endpoint)).2
        .ok (⟨t, source, next.1, { service := t.endpoint, watcher := r.nextId }⟩,
          d.setRegistry source watched, next.2)
      else .error (.config "registry resolver must be built inside a tokio runtime") := by
  unfold dial
  rw [htarget]
  cases inRuntime <;>
    simp only [bind, Except.bind, pure, Except.pure, hsource, hoptions, Resolver.start,
      Resolver.push, if_true, Bool.false_eq_true, if_false]

theorem canDial_of_known (htarget : Target.parse target = .ok t)
    (hsource : d.resolvers.get? t.scheme = some source)
    (hoptions : d.balancers.get? policy = some options) :
    d.canDial inRuntime target policy =
      (!inRuntime || (d.registryAt source).canWatch t.endpoint) := by
  unfold canDial sought?
  rw [htarget]
  cases inRuntime <;> simp [hsource, hoptions]

end Cases

/-- Each error of a dialing comes before its first step that changes anything, and one without
errors breaks down exactly if the queue of its subscription cannot be made. -/
theorem run_dialing (connect : Connector σ C) (inRuntime : Bool) (target policy : String)
    (d : Dialer) (w : σ) :
    (dialing connect inRuntime target policy).outcome (d, w) =
      if d.canDial inRuntime target policy then
        some (outcome d w (d.dial connect w inRuntime target policy))
      else none := by
  unfold dialing
  simp only [Work.outcome_bind, Work.outcome_get, Work.outcome_liftExcept]
  cases htarget : Target.parse target with
  | error e =>
    rw [dial_of_parse_eq_error htarget, canDial, sought?, htarget]
    rfl
  | ok t =>
    dsimp only
    cases hsource : d.resolvers.get? t.scheme with
    | none =>
      rw [dial_of_unknownScheme htarget hsource, canDial, sought?, htarget]
      simp only [hsource, Option.map_none, ite_self]
      rfl
    | some source =>
      cases hoptions : d.balancers.get? policy with
      | none =>
        rw [dial_of_unknownPolicy htarget hsource hoptions, canDial, sought?, htarget]
        simp only [hoptions, Option.isSome_none, Bool.and_false]
        rfl
      | some options =>
        rw [dial_of_known htarget hsource hoptions, canDial_of_known htarget hsource hoptions]
        cases inRuntime with
        | false => rfl
        | true =>
          simp only [Work.outcome_bind, run_starting, Bool.not_true, Bool.false_or, if_true]
          cases (d.registryAt source).canWatch t.endpoint <;> rfl

/-! ## What a dialing leaves behind -/

theorem registryAt_setRegistry_of_ne {d : Dialer} {place place' : Nat} (h : place ≠ place')
    (r : Registry) : (d.setRegistry place r).registryAt place' = d.registryAt place' := by
  unfold setRegistry registryAt
  rw [List.getD_eq_getElem?_getD, List.getElem?_set_ne h, ← List.getD_eq_getElem?_getD]

/-- The registration of a registry that answers for a scheme: the last one. -/
def sourceIn? (registrations : List Registration) (scheme : String) : Option Nat :=
  (registrations.filterMap (·.resolver?)).reverse.lookup scheme

/-- The registration of a balancer that counts for a policy: the last one. -/
def optionsIn? (registrations : List Registration) (policy : String) : Option ShardOptions :=
  (registrations.filterMap (·.balancer?)).reverse.lookup policy

section Registered

variable (registries : List Registry) (registrations : List Registration)

theorem registries_registered : (registered registries registrations).registries = registries := by
  rw [registered_eq]

theorem hasDistinct_registered
    (hreached : ∀ r ∈ registries, ∃ buffer past, r.state = (State.new buffer).performAll past)
    {place : Nat} (hplace : place < registries.length) :
    ((registered registries registrations).registryAt place).state.HasDistinct := by
  rw [registryAt, registries_registered, List.getD_eq_getElem?_getD,
    List.getElem?_eq_getElem hplace, Option.getD_some]
  obtain ⟨buffer, past, hpast⟩ := hreached _ (List.getElem_mem hplace)
  rw [hpast]
  exact (State.hasDistinct_new buffer).performAll past

theorem get?_resolvers_registered (scheme : String) :
    (registered registries registrations).resolvers.get? scheme =
      sourceIn? registrations scheme := by
  rw [registered_eq]
  exact Table.get?_ofList _ scheme

theorem get?_balancers_registered (policy : String) :
    (registered registries registrations).balancers.get? policy =
      optionsIn? registrations policy := by
  rw [registered_eq]
  exact Table.get?_ofList _ policy

theorem mem_of_sourceIn? {scheme : String} {place : Nat}
    (h : sourceIn? registrations scheme = some place) :
    .resolver scheme place ∈ registrations := by
  obtain ⟨earlier, later, hsplit, _⟩ := List.lookup_eq_some_iff.mp h
  have hmem : (scheme, place) ∈ (registrations.filterMap (·.resolver?)).reverse := by
    rw [hsplit]
    exact List.mem_append_right _ List.mem_cons_self
  obtain ⟨registration, hin, heq⟩ := List.mem_filterMap.mp (List.mem_reverse.mp hmem)
  cases registration with
  | resolver scheme' place' =>
    obtain ⟨rfl, rfl⟩ := Prod.mk.inj (Option.some.inj heq)
    exact hin
  | balancer policy options => cases heq

end Registered

theorem parse_eq_error {target : String} {e : RoutingError} (h : Target.parse target = .error e) :
    ∃ complaint, e = .invalidTarget complaint := by
  unfold Target.parse at h
  cases hread : Target.read target with
  | error flaw =>
    rw [hread] at h
    exact ⟨_, (Except.error.inj h).symm⟩
  | ok t =>
    rw [hread] at h
    cases h

/-- What is left of a dialing that succeeds. -/
structure Opened (d d' : Dialer) (t : Target) (source : Nat) (channel : Dialed C)
    (calls : List (Connections.Attempt C)) : Prop where
  target_eq : channel.target = t
  source_eq : channel.source = source
  /-- One subscription was made, at one registry, and the channel has its number. -/
  subscriptions_eq : ∀ place, (d'.registryAt place).state.subscriptions =
    (d.registryAt place).state.subscriptions ++
      if place = source then
        [(d.registryAt source).state.opening channel.resolver.watcher t.endpoint] else []
  watcherCount_eq : ∀ place service, (d'.registryAt place).state.watcherCount service =
    (d.registryAt place).state.watcherCount service +
      if place = source ∧ service = t.endpoint then 1 else 0
  instances_eq : ∀ place, (d'.registryAt place).instances = (d.registryAt place).instances
  members_eq : calls.map (·.member) = (d.registryAt source).instances t.endpoint
  distinct : (calls.map (·.member.address)).Nodup
  readyAddresses_eq : channel.connections.readyAddresses =
    ((calls.filter (·.result.isOk)).map (·.member.address)).mergeSort (· ≤ ·)

theorem opened_watch {d : Dialer} {connect : Connector σ C} {w : σ} {t : Target} {source : Nat}
    {options : ShardOptions} (hplace : source < d.registries.length)
    (hdistinct : (d.registryAt source).state.HasDistinct) :
    let r := d.registryAt source
    let watched := r.watch r.nextId t.endpoint
    let next := (Connections.sink (Connections.recording connect) (Connections.new options, w, [])
      (watched.instances t.endpoint)).2
    Opened d (d.setRegistry source watched) t source
      ⟨t, source, next.1, { service := t.endpoint, watcher := r.nextId }⟩ next.2.2 := by
  intro r watched next
  have hstate : watched.state = r.state.subscribe r.nextId t.endpoint :=
    Registry.state_watch r r.nextId t.endpoint
  have hinstances : watched.instances = r.instances := by
    funext service
    rw [Registry.instances, hstate]
    rfl
  have hmembers : ((watched.instances t.endpoint).map (·.address)).Nodup := by
    rw [hinstances]
    exact hdistinct t.endpoint
  obtain ⟨hcalls, hready⟩ := Connections.readyAddresses_sink_new connect options w hmembers
  constructor
  case target_eq => rfl
  case source_eq => rfl
  case subscriptions_eq =>
    intro place
    by_cases h : place = source
    · rw [h, registryAt_setRegistry hplace, hstate, if_pos rfl]
      rfl
    · rw [registryAt_setRegistry_of_ne (Ne.symm h), if_neg h, List.append_nil]
  case watcherCount_eq =>
    intro place service
    by_cases h : place = source
    · rw [h, registryAt_setRegistry hplace, hstate, State.watcherCount_subscribe]
      simp only [true_and, eq_comm]
      rfl
    · rw [registryAt_setRegistry_of_ne (Ne.symm h), if_neg fun hboth => h hboth.1, Nat.add_zero]
  case instances_eq =>
    intro place
    by_cases h : place = source
    · rw [h, registryAt_setRegistry hplace, hinstances]
    · rw [registryAt_setRegistry_of_ne (Ne.symm h)]
  case members_eq => exact hcalls.trans (congrFun hinstances _)
  case distinct =>
    rw [← hcalls, List.map_map] at hmembers
    exact hmembers
  case readyAddresses_eq => exact hready

/-- Whatever was registered before, a dialing under a runtime fails because of its target exactly if
that cannot be read, or else because of the scheme exactly if no registry was registered for it, or
else because of the policy exactly if no balancer was; then it neither called the connector nor
changed anything. Otherwise it breaks down exactly if the queue that it needs is too long, and if
not, it leaves one subscription at the registry that was registered last, and a channel that is
ready at the addresses of the service for which the connector made a connection. -/
theorem dialing_exact (registries : List Registry) (registrations : List Registration)
    (connect : Connector σ C) (w : σ) (target policy : String)
    (hplaces : ∀ scheme place, .resolver scheme place ∈ registrations → place < registries.length)
    (hreached : ∀ r ∈ registries, ∃ buffer past, r.state = (State.new buffer).performAll past) :
    let d := registered registries registrations
    let ended :=
      (dialing (Connections.recording connect) true target policy).outcome (d, w, [])
    match Target.parse target with
    | .error e => (∃ complaint, e = .invalidTarget complaint) ∧ ended = some (.error e, d, w, [])
    | .ok t =>
      match sourceIn? registrations t.scheme, optionsIn? registrations policy with
      | none, _ => ended = some (.error (.unknownScheme t.scheme), d, w, [])
      | some _, none => ended = some (.error (.unknownPolicy policy), d, w, [])
      | some source, some _ =>
        if State.maxCapacity < (d.registryAt source).state.capacityFor t.endpoint then ended = none
        else ∃ channel d' w' calls, ended = some (.ok channel, d', w', calls) ∧
          Opened d d' t source channel calls := by
  intro d ended
  have hended : ended = _ :=
    run_dialing (Connections.recording connect) true target policy d (w, [])
  cases htarget : Target.parse target with
  | error e =>
    rw [canDial, sought?, htarget, dial_of_parse_eq_error htarget] at hended
    exact ⟨parse_eq_error htarget, hended⟩
  | ok t =>
    have hsource : d.resolvers.get? t.scheme = _ :=
      get?_resolvers_registered registries registrations t.scheme
    have hoptions : d.balancers.get? policy = _ :=
      get?_balancers_registered registries registrations policy
    dsimp only
    cases hlast : sourceIn? registrations t.scheme with
    | none =>
      rw [hlast] at hsource
      rw [dial_of_unknownScheme htarget hsource, canDial, sought?, htarget] at hended
      simp only [hsource, Option.map_none, ite_self] at hended
      exact hended
    | some source =>
      rw [hlast] at hsource
      cases hlast' : optionsIn? registrations policy with
      | none =>
        rw [hlast'] at hoptions
        rw [dial_of_unknownPolicy htarget hsource hoptions, canDial, sought?, htarget] at hended
        simp only [hoptions, Option.isSome_none, Bool.and_false] at hended
        exact hended
      | some options =>
        rw [hlast'] at hoptions
        rw [dial_of_known htarget hsource hoptions, canDial_of_known htarget hsource hoptions,
          Bool.not_true, Bool.false_or, Registry.canWatch, if_pos rfl] at hended
        dsimp only
        have hplace : source < registries.length :=
          hplaces t.scheme source (mem_of_sourceIn? registrations hlast)
        have hdistinct : (d.registryAt source).state.HasDistinct :=
          hasDistinct_registered registries registrations hreached hplace
        have hplace' : source < d.registries.length := by
          rw [show d.registries = _ from registries_registered registries registrations]
          exact hplace
        by_cases hlong : State.maxCapacity < (d.registryAt source).state.capacityFor t.endpoint
        · rw [if_pos hlong, hended, if_neg]
          simpa using hlong
        · rw [if_neg hlong, hended, if_pos (by simpa using hlong)]
          exact ⟨_, _, _, _, rfl, opened_watch hplace' hdistinct⟩

/-- A scheme is registered twice, and the last registry answers. One of its members refuses. -/
theorem dialing_exact_refused :
    let past : List State.Action :=
      [.commit "orders" [⟨"orders", "c:1"⟩, ⟨"orders", "a:1"⟩, ⟨"orders", "b:1"⟩]]
    let registries : List Registry := [.empty, .static ((State.new 4).performAll past)]
    let registrations : List Registration :=
      [.resolver "dns" 0, .balancer "shard" {}, .resolver "dns" 1]
    let d := registered registries registrations
    let ended := (dialing (Connections.recording (Session.refusing "a:1")) true "dns:///orders"
      "shard").outcome (d, (), [])
    ∃ channel d' w' calls, ended = some (.ok channel, d', w', calls) ∧
      channel.source = 1 ∧
      calls.map (·.member.address) = ["c:1", "a:1", "b:1"] ∧
      channel.connections.readyAddresses = ["b:1", "c:1"] ∧
      (d'.registryAt 1).state.watcherCount "orders" = 1 ∧
      (d'.registryAt 0).state.watcherCount "orders" = 0 := by
  intro past registries registrations d ended
  have hplaces (scheme : String) (place : Nat) (h : .resolver scheme place ∈ registrations) :
      place < registries.length := by
    have hplace : (scheme = "dns" ∧ place = 0) ∨ (scheme = "dns" ∧ place = 1) := by
      simpa only [registrations, List.mem_cons, List.not_mem_nil, Registration.resolver.injEq,
        reduceCtorEq, false_or, or_false] using h
    show place < 2
    omega
  have hreached (r : Registry) (hr : r ∈ registries) :
      ∃ buffer past, r.state = (State.new buffer).performAll past := by
    rcases List.mem_pair.mp hr with rfl | rfl
    · exact ⟨1, [], rfl⟩
    · exact ⟨4, past, rfl⟩
  have htarget : Target.parse "dns:///orders" = .ok ⟨"dns", "", "orders"⟩ := by decide
  have hsource : sourceIn? registrations "dns" = some 1 := by decide
  have hoptions : optionsIn? registrations "shard" = some {} := rfl
  have hexact := dialing_exact registries registrations (Session.refusing "a:1") () "dns:///orders"
    "shard" hplaces hreached
  simp only [htarget, hsource, hoptions] at hexact
  rw [if_neg (by decide)] at hexact
  obtain ⟨channel, d', w', calls, hended, hopened⟩ := hexact
  have hmembers : calls.map (·.member) =
      [⟨"orders", "c:1"⟩, ⟨"orders", "a:1"⟩, ⟨"orders", "b:1"⟩] := hopened.members_eq
  have haccepted : ended.map (fun q => (q.2.2.2.filter (·.result.isOk)).map (·.member.address)) =
      some ["c:1", "b:1"] := by decide +kernel
  rw [show ended = _ from hended, Option.map_some, Option.some.injEq] at haccepted
  refine ⟨channel, d', w', calls, hended, hopened.source_eq, ?_, ?_, ?_, ?_⟩
  · exact (List.map_map (l := calls)).symm.trans (congrArg (List.map (·.address)) hmembers)
  · rw [hopened.readyAddresses_eq, haccepted,
      mergeSort_le_eq_of_perm (List.Perm.swap "b:1" "c:1" [])]
    exact List.mergeSort_of_pairwise (by decide)
  · rw [hopened.watcherCount_eq]
    decide
  · rw [hopened.watcherCount_eq]
    decide

/-- A registry keeps a queue of 2 ^ 61 changes for each subscription. A target, a scheme and a
policy that are all known do not lead to a channel. -/
theorem dialing_breaks :
    let s := State.new 2305843009213693952
    let d := registered [.static s] [.resolver "dns" 0, .balancer "shard" {}]
    let ended := (dialing (Session.refusing "a:1") true "dns:///orders" "shard").outcome (d, ())
    Target.parse "dns:///orders" = .ok ⟨"dns", "", "orders"⟩ ∧
      d.resolvers.get? "dns" = some 0 ∧ d.balancers.get? "shard" = some {} ∧ ended = none := by
  intro s d ended
  exact ⟨by decide, by decide, rfl, rfl⟩

end Dialer

end Roster
