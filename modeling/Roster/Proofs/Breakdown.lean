import Roster.Config.Load
import Roster.Proofs.Convergence
import Roster.Proofs.Registry.Contract
import Roster.Switchboard

/-!
# What breaks down

Two things break down when they are made: a queue, if its capacity is zero or beyond
`State.maxCapacity`, and the ticks of a poller, if they are zero apart. Whatever is done with the
registry of a configuration, the least capacity of its queues and the time between its ticks stay
what the configuration says (`Registry.Meets`). The main theorem therefore tells from the
configuration what can break down (`Switchboard.breakdowns_exact`): a queue that is too long, and
nothing else.
-/

namespace Roster

/-! ## Queues and ticks -/

def State.queueBreaks (capacity : Nat) : Bool := capacity == 0 || maxCapacity < capacity

theorem State.queueBreaks_iff {capacity : Nat} :
    queueBreaks capacity = true ↔ capacity = 0 ∨ maxCapacity < capacity := by
  simp [queueBreaks]

/-- Whether a task breaks down when it makes a move. -/
def Move.breaks : Move → Bool
  | .breakDown => true
  | _ => false

theorem PollingTask.move_ne_breakDown {t : PollingTask} {period now : Nat} {choice : StepChoice}
    (hperiod : 0 < period) : t.move period now choice ≠ .breakDown := by
  have hat (due : Nat) : t.moveAt period now due choice ≠ .breakDown := by
    unfold moveAt
    split
    · nofun
    · split
      · nofun
      · split <;> nofun
  unfold move
  split
  · rw [if_neg (Nat.ne_of_gt hperiod)]
    exact hat now
  · exact hat _
  · split
    · nofun
    · split <;> nofun
  · nofun
  · nofun

namespace PollingRegistry

variable {r : PollingRegistry} {i : Nat} {t : PollingTask} {next : Option Nat} {m : Action}

theorem options_completeQuery (result : Except String (List CatalogEntry)) :
    (r.completeQuery i t next result).options = r.options := by
  obtain ⟨pollers, phase, rank, waits, _, heq⟩ := completeQuery_eq r i t next result
  obtain ⟨catalog, state, hadopt, _⟩ := adopt_eq r result t.service
  rw [heq, hadopt]

theorem options_startQuery : (r.startQuery i t next).options = r.options := by
  rcases startQuery_cases r i t next with hover | ⟨_, hends⟩ | hgoes
  · rw [hover, options_completeQuery]
    rfl
  · rw [hends]
    rfl
  · rw [hgoes]
    rfl

theorem options_carryOut (move : Move) : (r.carryOut i t move).options = r.options := by
  cases move with
  | ask next => exact options_startQuery
  | complete next result => exact options_completeQuery result
  | _ => rfl

theorem options_perform (hm : m.isSingle = true) : (r.perform m).options = r.options := by
  cases m with
  | watch id service =>
    simp only [perform, subscribe, ensurePoller]
    split <;> rfl
  | stop id =>
    simp only [perform]
    rcases stop_cases r id with hstays | ⟨service, i, _, _, hcancels⟩
    · rw [hstays]
    · rw [hcancels, cancel]
      split <;> rfl
  | beginRefresh service => exact options_startQuery
  | step i choice =>
    simp only [perform]
    cases ht : r.tasks[i]? with
    | none => rw [step_of_none ht]
    | some t => rw [step_eq_carryOut ht, options_carryOut]
  | refresh service => cases hm
  | advance ms => cases hm
  | _ => rfl

def breaks (r : PollingRegistry) (i : Nat) (choice : StepChoice) : Bool :=
  r.tasks[i]?.any fun t => (t.move r.options.period r.now choice).breaks

theorem breaks_eq_false (hperiod : 0 < r.options.period) (choice : StepChoice) :
    r.breaks i choice = false := by
  unfold breaks
  cases r.tasks[i]? with
  | none => rfl
  | some t =>
    rw [Option.any_some]
    cases hmove : t.move r.options.period r.now choice with
    | breakDown => exact absurd hmove (PollingTask.move_ne_breakDown hperiod)
    | _ => rfl

end PollingRegistry

/-! ## Registries -/

/-- The capacity that the queues of a configuration's registry have at least. -/
def RegistryConfig.leastCapacity (c : RegistryConfig) : Nat :=
  match c.backend with
  | .consul => max c.watchBuffer 1
  | .file => max c.watchBuffer 1
  | .static => defaultWatchBuffer
  | .noop => 1

theorem RegistryConfig.leastCapacity_pos (c : RegistryConfig) : 0 < c.leastCapacity := by
  unfold leastCapacity defaultWatchBuffer
  split <;> omega

theorem RegistryConfig.maxCapacity_lt_leastCapacity_iff (c : RegistryConfig) :
    State.maxCapacity < c.leastCapacity ↔
      (c.backend = .consul ∨ c.backend = .file) ∧ State.maxCapacity < c.watchBuffer := by
  unfold leastCapacity defaultWatchBuffer State.maxCapacity
  cases c.backend <;> simp

namespace Registry

variable {r : Registry} {c : RegistryConfig}

def polls? : Registry → Option PollingOptions
  | polling p => some p.options
  | _ => none

/-- Whether an action breaks down. -/
def breaks (r : Registry) : Action → Bool
  | .watch _ service => State.queueBreaks (r.state.capacityFor service)
  | .step task choice =>
    match r with
    | polling p => p.breaks task choice
    | _ => false
  | _ => false

/-- The registry is one that the configuration describes: its queues hold as many changes as the
configuration says, and its ticks are not zero apart. -/
structure Meets (r : Registry) (c : RegistryConfig) : Prop where
  buffer_eq : r.state.buffer = c.leastCapacity
  period_pos : ∀ options, r.polls? = some options → 0 < options.period

theorem polls?_withState (r : Registry) (s : State) : (r.withState s).polls? = r.polls? := by
  cases r <;> rfl

theorem polls?_onFile (r : Registry) (f : FileRegistry → FileRegistry) :
    (r.onFile f).polls? = r.polls? := by
  cases r <;> rfl

theorem polls?_onPolling (r : Registry) {m : PollingRegistry.Action} (hm : m.isSingle = true) :
    (r.onPolling (·.perform m)).polls? = r.polls? := by
  cases r with
  | polling p => exact congrArg some (PollingRegistry.options_perform hm)
  | _ => rfl

theorem polls?_receive (r : Registry) (id : Nat) (limit : Option Nat) :
    (((r.receive id limit).map (·.2)).getD r).polls? = r.polls? := by
  rw [receive]
  cases r.state.receive id limit with
  | none => rfl
  | some q => exact polls?_withState r q.2

theorem polls?_perform (r : Registry) (action : Action) :
    (r.perform action).polls? = r.polls? := by
  cases action with
  | watch id service =>
    cases r with
    | polling p =>
      exact congrArg some (PollingRegistry.options_perform (m := .watch id service) rfl)
    | _ => rfl
  | stop id =>
    cases r with
    | polling p => exact congrArg some (PollingRegistry.options_perform (m := .stop id) rfl)
    | _ => rfl
  | receive id limit => exact polls?_receive r id limit
  | dropReceiver id => exact polls?_withState r _
  | dropHandle id => cases r <;> rfl
  | reload disk => exact polls?_onFile r _
  | notice name => exact polls?_onFile r _
  | turn disk => exact polls?_onFile r _
  | beginRefresh service => exact polls?_onPolling r rfl
  | step task choice => exact polls?_onPolling r rfl
  | pass ms => exact polls?_onPolling r rfl

theorem buffer_perform_of_byUser? {action : Action} {a : State.Action}
    (h : action.byUser? = some a) : (r.perform action).state.buffer = r.state.buffer := by
  rw [state_perform_of_byUser? h, State.buffer_perform]

theorem buffer_perform (r : Registry) (action : Action) :
    (r.perform action).state.buffer = r.state.buffer := by
  by_cases hinner : action.isInner = true
  · obtain ⟨actions, hcommits, _⟩ := commits_perform (r := r) hinner
    rw [hcommits, State.buffer_performAll]
  · cases action with
    | watch id service => exact buffer_perform_of_byUser? rfl
    | receive id limit => exact buffer_perform_of_byUser? rfl
    | stop id => exact buffer_perform_of_byUser? rfl
    | dropReceiver id => exact buffer_perform_of_byUser? rfl
    | dropHandle id => cases r <;> rfl
    | _ => exact absurd rfl hinner

theorem Meets.perform (h : r.Meets c) (action : Action) : (r.perform action).Meets c where
  buffer_eq := (buffer_perform r action).trans h.buffer_eq
  period_pos options hpolls := h.period_pos options ((polls?_perform r action).symm.trans hpolls)

theorem Meets.performAll (h : r.Meets c) (actions : List Action) :
    (r.performAll actions).Meets c := by
  induction actions generalizing r with
  | nil => exact h
  | cons action rest ih => exact ih (h.perform action)

/-- What breaks down is a queue that is too long. -/
theorem Meets.breaks_iff (h : r.Meets c) (action : Action) :
    r.breaks action = true ↔ ∃ id service, action = .watch id service ∧
      (State.maxCapacity < c.leastCapacity ∨
        State.maxCapacity < (r.instances service).length) := by
  cases action with
  | watch id service =>
    have hpos := c.leastCapacity_pos
    rw [breaks, State.queueBreaks_iff, State.capacityFor, h.buffer_eq]
    constructor
    · intro hbreaks
      refine ⟨id, service, rfl, ?_⟩
      rw [instances]
      omega
    · rintro ⟨_, _, heq, hlong⟩
      cases heq
      rw [instances] at hlong
      omega
  | step task choice =>
    constructor
    · intro hbreaks
      cases r with
      | polling p =>
        rw [breaks, PollingRegistry.breaks_eq_false (h.period_pos p.options rfl)] at hbreaks
        cases hbreaks
      | _ => cases hbreaks
    · rintro ⟨_, _, heq, _⟩
      cases heq
  | _ =>
    constructor
    · intro hbreaks
      cases hbreaks
    · rintro ⟨_, _, heq, _⟩
      cases heq

theorem Meets.canWatch_eq (h : r.Meets c) (id : Nat) (service : String) :
    r.canWatch service = !r.breaks (.watch id service) := by
  have hpos : 0 < r.state.capacityFor service :=
    Nat.lt_of_lt_of_le (h.buffer_eq ▸ c.leastCapacity_pos) (Nat.le_max_left _ _)
  rw [Bool.eq_iff_iff, Bool.not_eq_true', Bool.eq_false_iff, breaks, Ne, State.queueBreaks_iff]
  simp only [canWatch, decide_eq_true_eq]
  omega

/-! ## Registries from the configuration -/

theorem buffer_ofListing (buffer : Nat) (listing : Listing) :
    (State.ofListing buffer listing).buffer = max buffer 1 := by
  have hfold (es : List (String × List String)) (s : State) :
      (es.foldl (fun s e => (s.commitAddresses e.1 e.2).2) s).buffer = s.buffer := by
    induction es generalizing s with
    | nil => rfl
    | cons e rest ih => exact ih _
  exact hfold listing.entries (State.new buffer)

theorem buffer_openFile {disk : Disk} {path : String} {options : FileOptions} {inRuntime : Bool}
    {f : FileRegistry} (h : FileRegistry.openFile disk path options inRuntime = .ok f) :
    f.state.buffer = max options.watchBuffer 1 := by
  unfold FileRegistry.openFile at h
  cases hstart : FileRegistry.start disk path options.watchBuffer with
  | error e =>
    rw [hstart] at h
    cases h
  | ok started =>
    have hbuffer : started.state.buffer = max options.watchBuffer 1 := by
      obtain ⟨listing, _, rfl⟩ := FileRegistry.start_eq_ok hstart
      show ((State.new options.watchBuffer).adopt listing).2.buffer = _
      rw [State.adopt, State.commitAll_eq_performAll, State.buffer_performAll]
      rfl
    rw [hstart] at h
    simp only [bind, Except.bind] at h
    split at h
    · unfold FileRegistry.watchFile at h
      split at h
      · cases h
      · split at h
        · cases h
        · cases h
          exact hbuffer
    · cases h
      exact hbuffer

theorem meets_create {disk : Disk} {transport : WebTransport} {inRuntime : Bool}
    (h : create c disk transport inRuntime = .ok r) : r.Meets c := by
  unfold create at h
  cases hbackend : c.backend with
  | consul =>
    simp only [hbackend, bind, Except.bind] at h
    split at h
    · cases h
    · split at h
      · cases h
      · next p hpolling =>
        cases h
        unfold PollingRegistry.create at hpolling
        split at hpolling
        · cases hpolling
          refine ⟨?_, fun options hpolls => ?_⟩
          · rw [RegistryConfig.leastCapacity, hbackend]
            rfl
          · cases hpolls
            show 0 < max c.refreshIntervalSecs 1 * 1000
            omega
        · cases hpolling
  | file =>
    simp only [hbackend] at h
    split at h
    · cases h
    · cases hopen : FileRegistry.openFile disk _ ⟨c.watch, c.watchBuffer⟩ inRuntime with
      | error e =>
        rw [hopen] at h
        cases h
      | ok f =>
        rw [hopen] at h
        cases h
        refine ⟨?_, nofun⟩
        rw [RegistryConfig.leastCapacity, hbackend]
        exact buffer_openFile hopen
  | static =>
    simp only [hbackend] at h
    cases h
    refine ⟨?_, nofun⟩
    rw [RegistryConfig.leastCapacity, hbackend]
    exact buffer_ofListing defaultWatchBuffer c.services
  | noop =>
    simp only [hbackend] at h
    cases h
    refine ⟨?_, nofun⟩
    rw [RegistryConfig.leastCapacity, hbackend]
    rfl

theorem exists_create_consul (disk : Disk) (transport : WebTransport)
    (hbackend : c.backend = .consul) (haddress : c.address = none) :
    ∃ r, create c disk transport true = .ok r := by
  have hclient : ∃ client, ConsulClient.create defaultConsulAddress c.datacenter = .ok client := by
    have hnonempty :
        ((defaultConsulAddress.toList.reverse.dropWhile (· = '/')).reverse).isEmpty = false := by
      decide +kernel
    unfold ConsulClient.create
    simp only [hnonempty]
    exact ⟨_, rfl⟩
  obtain ⟨client, hclient⟩ := hclient
  unfold create
  simp only [hbackend, haddress, Option.getD_none, hclient]
  exact ⟨_, rfl⟩

end Registry

/-! ## Switchboards -/

/-- A turn does to the registry what users of registries do. -/
theorem Resolver.actions_turn {ω : Type} (r : Resolver) (registry : Registry) (sink : Sink ω)
    (w : ω) : ∃ actions, (r.turn registry sink w).2.1 = registry.performAll actions := by
  unfold turn
  split
  · exact ⟨[], rfl⟩
  · split
    · exact ⟨[.stop r.watcher, .dropReceiver r.watcher], rfl⟩
    · cases hreceive : registry.receive r.watcher none with
      | none => exact ⟨[], rfl⟩
      | some q =>
        have hnext : q.2 = registry.perform (.receive r.watcher none) := by
          rw [Registry.perform, hreceive]
          rfl
        dsimp only
        rw [hnext]
        split
        · exact ⟨[.receive r.watcher none], rfl⟩
        · split
          · exact ⟨[.receive r.watcher none, .stop r.watcher, .dropReceiver r.watcher], rfl⟩
          · exact ⟨[.receive r.watcher none], rfl⟩

namespace Dialer

variable {σ C : Type} {d d' : Dialer} {place : Nat}

theorem sought?_eq_some {inRuntime : Bool} {target policy service : String} {source : Nat}
    (h : d.sought? inRuntime target policy = some (source, service)) :
    ∃ t options, Target.parse target = .ok t ∧ d.resolvers.get? t.scheme = some source ∧
      d.balancers.get? policy = some options ∧ inRuntime = true ∧ t.endpoint = service := by
  unfold sought? at h
  split at h
  · cases h
  · next t htarget =>
    split at h
    · next hready =>
      obtain ⟨hruntime, hpolicy⟩ := Bool.and_eq_true_iff.mp hready
      obtain ⟨options, hoptions⟩ := Option.isSome_iff_exists.mp hpolicy
      obtain ⟨place, hsource, heq⟩ := Option.map_eq_some_iff.mp h
      cases heq
      exact ⟨t, options, htarget, hsource, hoptions, hruntime, rfl⟩
    · cases h

/-- To dial a target is to subscribe to what is sought. -/
theorem sought?_eq_some_iff (connect : Connector σ C) (w : σ) {inRuntime : Bool}
    {target policy service : String} {source : Nat} :
    d.sought? inRuntime target policy = some (source, service) ↔
      ∃ channel d' w', d.dial connect w inRuntime target policy = .ok (channel, d', w') ∧
        channel.source = source ∧ channel.target.endpoint = service := by
  constructor
  · intro hsought
    obtain ⟨t, options, htarget, hsource, hoptions, hruntime, rfl⟩ := sought?_eq_some hsought
    rw [dial, htarget]
    simp [hsource, hoptions, bind, Except.bind, pure, Except.pure, Resolver.start, hruntime]
  · rintro ⟨channel, d', w', hdial, rfl, rfl⟩
    obtain ⟨options, htarget, hsource, hoptions, rfl, _⟩ := dial_eq_ok hdial
    simp [sought?, htarget, hsource, hoptions]

/-- The dialer with one registry, under the scheme and with the balancer of a configuration. -/
def only (c : RoutingConfig) (r : Registry) : Dialer :=
  (((({} : Dialer).addRegistry r).2.registerResolver c.resolver.scheme 0).registerBalancer
    c.balancer.policy c.balancer.shardOptions)

theorem installConfig_eq_ok_iff {c : RoutingConfig} {disk : Disk} {transport : WebTransport}
    {inRuntime : Bool} :
    ({} : Dialer).installConfig c disk transport inRuntime = .ok (place, d) ↔
      ∃ r, Registry.create c.registry disk transport inRuntime = .ok r ∧ 0 = place ∧
        only c r = d := by
  unfold installConfig
  cases Registry.create c.registry disk transport inRuntime with
  | error e => simp [bind, Except.bind]
  | ok r => simp [bind, Except.bind, pure, Except.pure, only, addRegistry]

/-- One dialer becomes another one through what is done to its registries. -/
structure Acts (place : Nat) (d d' : Dialer) : Prop where
  resolvers_eq : d'.resolvers = d.resolvers
  actions : ∃ actions, d'.registryAt place = (d.registryAt place).performAll actions

theorem Acts.refl (place : Nat) (d : Dialer) : Acts place d d := ⟨rfl, [], rfl⟩

theorem acts_setRegistry (place source : Nat) (d : Dialer) (actions : List Registry.Action) :
    Acts place d (d.setRegistry source ((d.registryAt source).performAll actions)) := by
  refine ⟨rfl, ?_⟩
  by_cases hsame : source = place
  · subst hsame
    by_cases hthere : source < d.registries.length
    · exact ⟨actions, registryAt_setRegistry hthere _⟩
    · refine ⟨[], ?_⟩
      rw [setRegistry, List.set_eq_of_length_le (Nat.le_of_not_lt hthere)]
      rfl
  · refine ⟨[], ?_⟩
    simp only [setRegistry, registryAt, List.getD_eq_getElem?_getD, List.getElem?_set_ne hsame]
    rfl

theorem acts_dial {connect : Connector σ C} {w w' : σ} {inRuntime : Bool}
    {target policy : String} {channel : Dialed C}
    (h : d.dial connect w inRuntime target policy = .ok (channel, d', w')) : Acts place d d' := by
  obtain ⟨_, _, _, _, _, _, rfl, _⟩ := dial_eq_ok h
  exact acts_setRegistry place channel.source d
    [.watch (d.registryAt channel.source).nextId channel.target.endpoint]

theorem acts_turn (channel : Dialed C) (connect : Connector σ C) (w : σ) :
    Acts place d (channel.turn d connect w).2.1 := by
  obtain ⟨actions, hactions⟩ := channel.resolver.actions_turn (d.registryAt channel.source)
    (Connections.sink connect) (channel.connections, w)
  have hacts := acts_setRegistry place channel.source d actions
  rw [← hactions] at hacts
  exact hacts

end Dialer

namespace Switchboard

variable {σ C : Type} {b : Switchboard σ C} {connect : Connector σ C} {place : Nat}
  {c : RegistryConfig}

/-- What can happen around a switchboard with one registry: what is done with the registry, what is
done with channels, and turns of their background work. -/
inductive Event where
  | registry (action : Registry.Action)
  | dial (target policy : String)
  | turn (channel : Nat)
  | resolveNow (channel : Nat)
  | markReady (channel : Nat) (address : String)
  | markUnready (channel : Nat) (address : String)
  | pick (channel draw : Nat) (call : Call)
  | drop (channel : Nat)

/-- The switchboard after an event that does not break down. -/
def perform (b : Switchboard σ C) (connect : Connector σ C) (place : Nat) :
    Event → Switchboard σ C
  | .registry action =>
    { b with dialer := b.dialer.setRegistry place ((b.dialer.registryAt place).perform action) }
  | .dial target policy =>
    match b.dial connect true target policy with
    | .ok (_, next) => next
    | .error _ => b
  | .turn channel =>
    match b.channels[channel]? with
    | none => b
    | some x =>
      let (x, dialer, record) := x.turn b.dialer connect b.record
      { b with dialer, record, channels := b.channels.set channel x }
  | .resolveNow channel => b.resolveNow connect channel
  | .markReady channel address =>
    b.alter channel fun x => { x with connections := x.connections.markReady address }
  | .markUnready channel address =>
    b.alter channel fun x => { x with connections := x.connections.markUnready address }
  | .pick _ _ _ => b
  | .drop channel => b.drop channel

/-- Whether an event breaks down. -/
def breaks (b : Switchboard σ C) (place : Nat) : Event → Bool
  | .registry action => (b.dialer.registryAt place).breaks action
  | .dial target policy =>
    (b.dialer.sought? true target policy).any fun (source, service) =>
      State.queueBreaks ((b.dialer.registryAt source).state.capacityFor service)
  | _ => false

def subscribed? (b : Switchboard σ C) : Event → Option String
  | .registry (.watch _ service) => some service
  | .dial target policy => (b.dialer.sought? true target policy).map (·.2)
  | _ => none

/-- The switchboard after an event. What breaks down leaves it as it is. -/
def after (b : Switchboard σ C) (connect : Connector σ C) (place : Nat) (e : Event) :
    Switchboard σ C :=
  if b.breaks place e then b else b.perform connect place e

def afterAll (b : Switchboard σ C) (connect : Connector σ C) (place : Nat)
    (events : List Event) : Switchboard σ C :=
  events.foldl (fun b e => b.after connect place e) b

/-- Every scheme leads to the registry at a place, which is one that a configuration describes. -/
structure Serves (b : Switchboard σ C) (place : Nat) (c : RegistryConfig) : Prop where
  meets : (b.dialer.registryAt place).Meets c
  resolvers : ∀ scheme source, b.dialer.resolvers.get? scheme = some source → source = place

theorem acts_perform (b : Switchboard σ C) (connect : Connector σ C) (place : Nat) (e : Event) :
    Dialer.Acts place b.dialer (b.perform connect place e).dialer := by
  cases e with
  | registry action => exact Dialer.acts_setRegistry place place b.dialer [action]
  | dial target policy =>
    simp only [perform, dial]
    cases hdial : b.dialer.dial connect b.record true target policy with
    | error e => exact .refl place _
    | ok x =>
      have hacts : Dialer.Acts place b.dialer x.2.1 := Dialer.acts_dial hdial
      simp only [bind, Except.bind, pure, Except.pure, wake]
      split <;> exact hacts
  | turn channel =>
    simp only [perform]
    cases b.channels[channel]? with
    | none => exact .refl place _
    | some x => exact Dialer.acts_turn x connect b.record
  | resolveNow channel =>
    simp only [perform, resolveNow]
    split <;> exact .refl place _
  | drop channel =>
    simp only [perform, drop, wake]
    split <;> exact .refl place _
  | _ => exact .refl place _

theorem Serves.after (h : b.Serves place c) (connect : Connector σ C) (e : Event) :
    (b.after connect place e).Serves place c := by
  unfold Switchboard.after
  split
  · exact h
  · obtain ⟨hresolvers, actions, hactions⟩ := b.acts_perform connect place e
    refine ⟨?_, fun scheme source hsource => ?_⟩
    · rw [hactions]
      exact h.meets.performAll actions
    · rw [hresolvers] at hsource
      exact h.resolvers scheme source hsource

theorem Serves.afterAll (h : b.Serves place c) (connect : Connector σ C) (events : List Event) :
    (b.afterAll connect place events).Serves place c := by
  induction events generalizing b with
  | nil => exact h
  | cons e rest ih => exact ih (h.after connect e)

/-- An event that subscribes to nothing does not break down, and one that does breaks down exactly
if its queue is too long. -/
theorem Serves.breaks_iff (h : b.Serves place c) (e : Event) :
    b.breaks place e = true ↔ ∃ service, b.subscribed? e = some service ∧
      (State.maxCapacity < c.leastCapacity ∨
        State.maxCapacity < ((b.dialer.registryAt place).instances service).length) := by
  have hwatch (service : String) :
      State.queueBreaks ((b.dialer.registryAt place).state.capacityFor service) = true ↔
        State.maxCapacity < c.leastCapacity ∨
          State.maxCapacity < ((b.dialer.registryAt place).instances service).length := by
    have hiff := h.meets.breaks_iff (.watch 0 service)
    rw [Registry.breaks] at hiff
    rw [hiff]
    constructor
    · rintro ⟨_, _, heq, hlong⟩
      cases heq
      exact hlong
    · exact fun hlong => ⟨0, service, rfl, hlong⟩
  cases e with
  | registry action =>
    rw [breaks, h.meets.breaks_iff]
    constructor
    · rintro ⟨id, service, rfl, hlong⟩
      exact ⟨service, rfl, hlong⟩
    · rintro ⟨service, hservice, hlong⟩
      cases action with
      | watch id service' =>
        cases hservice
        exact ⟨id, service, rfl, hlong⟩
      | _ => cases hservice
  | dial target policy =>
    simp only [breaks, subscribed?]
    cases hsought : b.dialer.sought? true target policy with
    | none => simp
    | some x =>
      obtain ⟨t, _, _, hsource, _⟩ := Dialer.sought?_eq_some hsought
      obtain rfl := h.resolvers t.scheme x.1 hsource
      rw [Option.any_some, hwatch, Option.map_some]
      simp
  | _ =>
    constructor
    · exact nofun
    · rintro ⟨_, hservice, _⟩
      cases hservice

/-- Before a channel is dialed, one can tell whether this breaks down. -/
theorem Serves.canDial_eq (h : b.Serves place c) (target policy : String) :
    b.dialer.canDial true target policy = !b.breaks place (.dial target policy) := by
  simp only [Dialer.canDial, breaks]
  cases hsought : b.dialer.sought? true target policy with
  | none => rfl
  | some x =>
    obtain ⟨t, _, _, hsource, _⟩ := Dialer.sought?_eq_some hsought
    have hplace := h.resolvers t.scheme x.1 hsource
    have hwatch := h.meets.canWatch_eq 0 x.2
    rw [← hplace] at hwatch
    exact hwatch

theorem serves_only (c : RoutingConfig) {r : Registry} (h : r.Meets c.registry) (record : σ) :
    ({ dialer := Dialer.only c r, record } : Switchboard σ C).Serves 0 c.registry := by
  refine ⟨h, fun scheme source hsource => ?_⟩
  replace hsource : (Table.empty.set c.resolver.scheme 0).get? scheme = some source := hsource
  rw [Table.get?_set] at hsource
  split at hsource
  · exact (Option.some.inj hsource).symm
  · cases hsource

/-- Install any configuration, and let anything happen around it. Nothing breaks down but a queue
that is too long for being made: that of a subscription, which someone asks for or dials, to a
service that has too many members, or to any service if members come from a catalog or a document
and the configuration asks for too long queues. -/
theorem breakdowns_exact {c : RoutingConfig} {disk : Disk} {transport : WebTransport} {d : Dialer}
    (hinstall : ({} : Dialer).installConfig c disk transport true = .ok (place, d))
    (connect : Connector σ C) (record : σ) (events : List Event) :
    let b := ({ dialer := d, record } : Switchboard σ C).afterAll connect place events
    State.queueBreaks FileRegistry.noticeLimit = false ∧
    (∀ e, b.breaks place e = true ↔ ∃ service, b.subscribed? e = some service ∧
      ((c.registry.backend = .consul ∨ c.registry.backend = .file) ∧
          State.maxCapacity < c.registry.watchBuffer ∨
        State.maxCapacity < ((b.dialer.registryAt place).instances service).length)) ∧
    ∀ target policy service, b.subscribed? (.dial target policy) = some service ↔
      ∃ channel d' w', b.dialer.dial connect b.record true target policy = .ok (channel, d', w') ∧
        channel.target.endpoint = service := by
  intro b
  obtain ⟨r, hcreate, rfl, rfl⟩ := Dialer.installConfig_eq_ok_iff.mp hinstall
  have hserves : b.Serves 0 c.registry :=
    (serves_only c (Registry.meets_create hcreate) record).afterAll connect events
  refine ⟨by decide, fun e => ?_, fun target policy service => ?_⟩
  · rw [hserves.breaks_iff]
    simp only [RegistryConfig.maxCapacity_lt_leastCapacity_iff]
  · simp only [subscribed?, Option.map_eq_some_iff, Prod.exists,
      Dialer.sought?_eq_some_iff connect b.record]
    constructor
    · rintro ⟨_, _, ⟨channel, d', w', hdial, _, rfl⟩, rfl⟩
      exact ⟨channel, d', w', hdial, rfl⟩
    · rintro ⟨channel, d', w', hdial, rfl⟩
      exact ⟨channel.source, _, ⟨channel, d', w', hdial, rfl, rfl⟩, rfl⟩

/-- Queues of 2 ^ 61 changes are asked for, but the members stand in the configuration, and its
registry takes no notice: nothing breaks down after a channel was dialed and someone subscribed. -/
theorem breakdowns_exact_listed :
    let services := Table.empty.set "users" ["a:1"]
    let c : RoutingConfig :=
      { registry := { backend := .static, watchBuffer := 2 ^ 61, services } }
    let d := Dialer.only c (Registry.ofListing services)
    let events : List Event :=
      [.dial "registry:///users" "shard", .registry (.watch 1 "users"), .turn 0]
    let b := ({ dialer := d, record := () } : Switchboard Unit String).afterAll
      (Session.refusing "a:1") 0 events
    ({} : Dialer).installConfig c Table.empty (fun _ => .error "unreachable") true = .ok (0, d) ∧
      b.subscribed? (.dial "registry:///users" "shard") = some "users" ∧
      b.breaks 0 (.dial "registry:///users" "shard") = false ∧
      b.breaks 0 (.registry (.watch 2 "users")) = false := by
  intro services c d events b
  have hinstall : ({} : Dialer).installConfig c Table.empty (fun _ => .error "unreachable") true =
      .ok (0, d) := Dialer.installConfig_eq_ok_iff.mpr ⟨_, rfl, rfl, rfl⟩
  obtain ⟨_, hbreaks, _⟩ := breakdowns_exact hinstall (Session.refusing "a:1") () events
  have hmembers : ((b.dialer.registryAt 0).instances "users").length = 1 := by decide
  have hshort (e : Event) (hservice : b.subscribed? e = some "users") :
      b.breaks 0 e = false := by
    refine Bool.eq_false_iff.mpr fun hlong => ?_
    obtain ⟨service, heq, hlong⟩ := (hbreaks e).mp hlong
    obtain rfl : "users" = service := Option.some.inj (hservice.symm.trans heq)
    rcases hlong with ⟨hbackend, _⟩ | hlong
    · exact absurd hbackend (by decide)
    · rw [hmembers] at hlong
      exact absurd hlong (by decide)
  have hdial : b.subscribed? (.dial "registry:///users" "shard") = some "users" := by decide
  exact ⟨hinstall, hdial, hshort _ hdial, hshort _ rfl⟩

/-- A text is accepted that asks for queues of 2 ^ 61 changes. What it describes is installed, and
breaks down when someone subscribes or dials. -/
theorem accepted_breaks :
    let text := "[registry]\nbackend = \"consul\"\nwatch_buffer = 2305843009213693952\n"
    let transport : WebTransport := fun _ => .error "unreachable"
    ∃ c place d, RoutingConfig.ofToml text = .ok c ∧
      ({} : Dialer).installConfig c Table.empty transport true = .ok (place, d) ∧
      let b : Switchboard Unit String := { dialer := d, record := () }
      b.breaks place (.registry (.watch 0 "users")) = true ∧
      b.breaks place (.dial "registry:///users" "shard") = true := by
  intro text transport
  let c : RoutingConfig := { registry := { backend := .consul, watchBuffer := 2 ^ 61 } }
  have hread : RoutingConfig.ofToml? text = some c := by decide +kernel
  obtain ⟨r, hcreate⟩ :=
    Registry.exists_create_consul (c := c.registry) Table.empty transport rfl rfl
  have hbreaks (e : Event) (hservice : (Switchboard.mk (Dialer.only c r) [] [] () :
      Switchboard Unit String).subscribed? e = some "users") :=
    ((serves_only c (Registry.meets_create hcreate) ()).breaks_iff e).mpr
      ⟨"users", hservice, Or.inl (by decide)⟩
  refine ⟨c, 0, Dialer.only c r, ?_, ?_, hbreaks _ rfl, hbreaks _ rfl⟩
  · rw [RoutingConfig.ofToml, hread]
  · exact Dialer.installConfig_eq_ok_iff.mpr ⟨r, hcreate, rfl, rfl⟩

end Switchboard

end Roster
