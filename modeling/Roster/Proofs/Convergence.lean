import Mathlib.Logic.Relation
import Roster.Proofs.Connections
import Roster.Proofs.Resolver

/-!
# Channels come to hold what their registry lists

A channel that was dialed goes on in steps: turns of its background work, explicit pushes, marks on
its connections, and whatever else happens to the registries (`Session.Step`). The invariant
`Session.Follows` says that whenever nothing waits for the channel's resolver, the channel holds
exactly what its service lists and the connector accepts. Every step preserves it
(`Follows.step`): changes that are dropped are dropped because others wait, and a turn that takes
what waits hands on the members as they are by then.
-/

namespace Roster

variable {σ C : Type}

/-! ## Dialing -/

namespace Dialer

theorem registryAt_setRegistry {d : Dialer} {place : Nat} (h : place < d.registries.length)
    (r : Registry) : (d.setRegistry place r).registryAt place = r := by
  unfold setRegistry registryAt
  rw [List.getD_eq_getElem?_getD, List.getElem?_set_self h]
  rfl

theorem lt_of_subscription? {d : Dialer} {place id : Nat} {sub : Subscription}
    (h : (d.registryAt place).state.subscription? id = some sub) : place < d.registries.length := by
  refine Decidable.not_not.mp fun hout => ?_
  rw [registryAt, List.getD_eq_getElem?_getD,
    List.getElem?_eq_none (Nat.le_of_not_lt hout)] at h
  cases h

/-- What it takes to dial a target, and what comes of it: a subscription under a new number, and a
channel to which the members were handed. -/
theorem dial_eq_ok {d d' : Dialer} {connect : Connector σ C} {w w' : σ} {inRuntime : Bool}
    {target policy : String} {channel : Dialed C}
    (h : d.dial connect w inRuntime target policy = .ok (channel, d', w')) :
    ∃ options,
      Target.parse target = .ok channel.target ∧
      d.resolvers.get? channel.target.scheme = some channel.source ∧
      d.balancers.get? policy = some options ∧ inRuntime = true ∧
      let r := d.registryAt channel.source
      let watched := r.watch r.nextId channel.target.endpoint
      channel.resolver = { service := channel.target.endpoint, watcher := r.nextId } ∧
      d' = d.setRegistry channel.source watched ∧
      (channel.connections, w') = (Connections.sink connect (Connections.new options, w)
        (watched.instances channel.target.endpoint)).2 := by
  unfold dial at h
  cases htarget : Target.parse target with
  | error e =>
    rw [htarget] at h
    cases h
  | ok t =>
    rw [htarget] at h
    cases hsource : d.resolvers.get? t.scheme with
    | none => simp [hsource, bind, Except.bind] at h
    | some source =>
      cases hoptions : d.balancers.get? policy with
      | none => simp [hsource, hoptions, bind, Except.bind] at h
      | some options =>
        cases inRuntime with
        | false => simp [hsource, hoptions, bind, Except.bind, Resolver.start] at h
        | true =>
          simp only [hsource, hoptions, bind, Except.bind, pure, Except.pure, Resolver.start,
            if_true, Except.ok.injEq, Prod.mk.injEq] at h
          obtain ⟨rfl, rfl, rfl⟩ := h
          exact ⟨options, rfl, hsource, rfl, rfl, rfl, rfl, rfl⟩

end Dialer

/-! ## Sessions -/

/-- A channel, the registries around it, and what its connector records. -/
structure Session (σ C : Type) where
  channel : Dialed C
  dialer : Dialer
  record : σ

namespace Session

def registry (s : Session σ C) : Registry := s.dialer.registryAt s.channel.source

def waiting (s : Session σ C) : List Change :=
  ((s.registry.state.subscription? s.channel.resolver.watcher).map (·.queue)).getD []

def turned (s : Session σ C) (connect : Connector σ C) : Session σ C :=
  let (channel, dialer, record) := s.channel.turn s.dialer connect s.record
  { channel, dialer, record }

def resolved (s : Session σ C) (connect : Connector σ C) : Session σ C :=
  let (channel, record) := s.channel.resolveNow s.dialer connect s.record
  { s with channel, record }

def withConnections (s : Session σ C) (connections : Connections C) : Session σ C :=
  { s with channel := { s.channel with connections } }

/-- What can happen around a channel that is not dropped. -/
inductive Step (connect : Connector σ C) (s : Session σ C) : Session σ C → Prop where
  /-- Anything is done to registries, if it is not done about the channel's own subscription, and
  the connector may have worked for others. -/
  | elsewhere (dialer : Dialer) (record : σ) (actions : List State.Action)
      (hothers : ∀ action ∈ actions, action.subject? ≠ some s.channel.resolver.watcher)
      (hstate : (dialer.registryAt s.channel.source).state = s.registry.state.performAll actions) :
      Step connect s { s with dialer, record }
  | turn : Step connect s (s.turned connect)
  | resolveNow : Step connect s (s.resolved connect)
  | markReady (address : String) :
      Step connect s (s.withConnections (s.channel.connections.markReady address))
  | markUnready (address : String) :
      Step connect s (s.withConnections (s.channel.connections.markUnready address))

/-- The session after the channel's registry committed instances to a service. -/
def committed (s : Session σ C) (service : String) (is : List Instance) : Session σ C :=
  { s with
    dialer := s.dialer.setRegistry s.channel.source
      (s.registry.withState (s.registry.state.commit service is).2) }

theorem Step.commit (connect : Connector σ C) (s : Session σ C)
    (h : s.channel.source < s.dialer.registries.length) (service : String) (is : List Instance) :
    Step connect s (s.committed service is) := by
  refine .elsewhere _ s.record [.commit service is] ?_ ?_
  · intro action haction
    rw [List.mem_singleton.mp haction]
    exact nofun
  · rw [Dialer.registryAt_setRegistry h, Registry.state_withState]
    rfl

/-! ## The invariant -/

/-- The connections are open, and the connector accepts every address that is held. -/
structure Accepted (accepts : String → Bool) (c : Connections C) : Prop where
  isOpen : c.isClosed = false
  accepted : ∀ a, (c.held.get? a).isSome = true → accepts a = true

/-- Exactly those addresses of the listed ones are held that the connector accepts. -/
def Holds (accepts : String → Bool) (c : Connections C) (members : List Instance) : Prop :=
  ∀ a, (c.held.get? a).isSome = (hasAddress members a && accepts a)

/-- The channel's resolver works on a live subscription, and the channel holds what is listed
whenever nothing waits. -/
structure Follows (accepts : String → Bool) (endpoint : String) (s : Session σ C) : Prop where
  service_eq : s.channel.resolver.service = endpoint
  isRunning : s.channel.resolver.isRunning = true
  isKept : s.channel.resolver.isClosed = false
  connections : Accepted accepts s.channel.connections
  current : ∃ sub, s.registry.state.Live s.channel.resolver.watcher endpoint sub ∧
    (sub.queue = [] → Holds accepts s.channel.connections (s.registry.instances endpoint))

variable {accepts : String → Bool} {endpoint : String} {s : Session σ C}
  {connect : Connector σ C}

/-- Whatever is held before, handing on members leaves what is listed and accepted. -/
theorem Accepted.sink {c : Connections C} (h : Accepted accepts c)
    (hverdict : ∀ w m, (connect w m).1.isOk = accepts m.address) (w : σ)
    (members : List Instance) :
    Accepted accepts (Connections.sink connect (c, w) members).2.1 ∧
      Holds accepts (Connections.sink connect (c, w) members).2.1 members := by
  have hholds : Holds accepts (Connections.sink connect (c, w) members).2.1 members :=
    Connections.isSome_get?_held_sink hverdict h.isOpen h.accepted
  refine ⟨⟨(Connections.held_sink h.isOpen).2, fun a ha => ?_⟩, hholds⟩
  rw [hholds a, Bool.and_eq_true] at ha
  exact ha.2

/-! ## Steps -/

theorem Follows.elsewhere (h : s.Follows accepts endpoint) (dialer : Dialer) (record : σ)
    {actions : List State.Action}
    (hothers : ∀ action ∈ actions, action.subject? ≠ some s.channel.resolver.watcher)
    (hstate : (dialer.registryAt s.channel.source).state = s.registry.state.performAll actions) :
    Follows accepts endpoint { s with dialer, record } := by
  obtain ⟨sub, hlive, hholds⟩ := h.current
  obtain ⟨sub', hlive', hqueue⟩ := hlive.performAll hothers
  refine { h with current := ⟨sub', ?_, fun hnil a => ?_⟩ }
  · rw [registry, hstate]
    exact hlive'
  · obtain ⟨hnil', haddresses⟩ := hqueue hnil
    show (s.channel.connections.held.get? a).isSome =
      (hasAddress ((dialer.registryAt s.channel.source).state.instances endpoint) a && accepts a)
    rw [hstate, haddresses a]
    exact hholds hnil' a

def received (s : Session σ C) : Session σ C :=
  { s with
    dialer := s.dialer.setRegistry s.channel.source
      (s.registry.withState (s.registry.state.perform (.receive s.channel.resolver.watcher none))) }

theorem registry_received {sub : Subscription}
    (hlive : s.registry.state.Live s.channel.resolver.watcher endpoint sub) :
    s.received.registry =
      s.registry.withState (s.registry.state.perform (.receive s.channel.resolver.watcher none)) :=
  Dialer.registryAt_setRegistry (Dialer.lt_of_subscription? hlive.found) _

theorem instances_received {sub : Subscription}
    (hlive : s.registry.state.Live s.channel.resolver.watcher endpoint sub) :
    s.received.registry.instances endpoint = s.registry.instances endpoint := by
  rw [registry_received hlive, Registry.instances, Registry.state_withState,
    State.instances_perform]
  rfl

theorem live_received {sub : Subscription}
    (hlive : s.registry.state.Live s.channel.resolver.watcher endpoint sub) :
    s.received.registry.state.Live s.channel.resolver.watcher endpoint (sub.drained none) := by
  rw [registry_received hlive, Registry.state_withState]
  exact hlive.receive

/-- A turn takes what waits, and hands the members on if anything did. -/
theorem Follows.turned_eq (h : s.Follows accepts endpoint) (connect : Connector σ C)
    {sub : Subscription}
    (hlive : s.registry.state.Live s.channel.resolver.watcher endpoint sub) :
    s.turned connect =
      let after := if sub.queue = [] then (s.channel.connections, s.record)
        else (Connections.sink connect (s.channel.connections, s.record)
          (s.registry.instances endpoint)).2
      { s.received.withConnections after.1 with record := after.2 } := by
  rw [← h.service_eq] at hlive
  have hturn := Resolver.turn_of_live hlive h.isRunning h.isKept (Connections.sink connect)
    (s.channel.connections, s.record)
  rw [turned, Dialed.turn, show s.dialer.registryAt s.channel.source = s.registry from rfl, hturn,
    Resolver.push, h.service_eq]
  rfl

theorem Follows.turned (h : s.Follows accepts endpoint)
    (hverdict : ∀ w m, (connect w m).1.isOk = accepts m.address) :
    Follows accepts endpoint (s.turned connect) := by
  obtain ⟨sub, hlive, hholds⟩ := h.current
  rw [h.turned_eq connect hlive]
  -- Whether or not the members were handed on, what is held now is what is listed.
  suffices hafter : ∀ after : Connections C × σ, Accepted accepts after.1 →
      Holds accepts after.1 (s.registry.instances endpoint) →
      Follows accepts endpoint { s.received.withConnections after.1 with record := after.2 } by
    by_cases hqueue : sub.queue = []
    · rw [if_pos hqueue]
      exact hafter _ h.connections (hholds hqueue)
    · rw [if_neg hqueue]
      have hsink := h.connections.sink hverdict s.record (s.registry.instances endpoint)
      exact hafter _ hsink.1 hsink.2
  intro after haccepted hafter
  exact {
    service_eq := h.service_eq
    isRunning := h.isRunning
    isKept := h.isKept
    connections := haccepted
    current := ⟨sub.drained none, live_received hlive, fun _ => by
      show Holds accepts after.1 (s.received.registry.instances endpoint)
      rw [instances_received hlive]
      exact hafter⟩ }

theorem Follows.resolved (h : s.Follows accepts endpoint)
    (hverdict : ∀ w m, (connect w m).1.isOk = accepts m.address) :
    Follows accepts endpoint (s.resolved connect) := by
  obtain ⟨sub, hlive, hholds⟩ := h.current
  have hsink := h.connections.sink hverdict s.record (s.registry.instances endpoint)
  have heq : s.resolved connect =
      let after := (Connections.sink connect (s.channel.connections, s.record)
        (s.registry.instances endpoint)).2
      { s.withConnections after.1 with record := after.2 } := by
    rw [Session.resolved, Dialed.resolveNow, Resolver.resolveNow, h.isKept,
      if_neg Bool.false_ne_true, Resolver.push, h.service_eq]
    rfl
  rw [heq]
  exact {
    service_eq := h.service_eq
    isRunning := h.isRunning
    isKept := h.isKept
    connections := hsink.1
    current := ⟨sub, hlive, fun _ => hsink.2⟩ }

theorem Follows.withConnections (h : s.Follows accepts endpoint) {c : Connections C}
    (hheld : c.held = s.channel.connections.held)
    (hclosed : c.isClosed = s.channel.connections.isClosed) :
    Follows accepts endpoint (s.withConnections c) where
  service_eq := h.service_eq
  isRunning := h.isRunning
  isKept := h.isKept
  connections := ⟨hclosed.trans h.connections.isOpen, by
    show ∀ a, (c.held.get? a).isSome = true → _
    rw [hheld]
    exact h.connections.accepted⟩
  current := by
    obtain ⟨sub, hlive, hholds⟩ := h.current
    refine ⟨sub, hlive, fun hnil a => ?_⟩
    show (c.held.get? a).isSome = _
    rw [hheld]
    exact hholds hnil a

theorem Follows.step (h : s.Follows accepts endpoint)
    (hverdict : ∀ w m, (connect w m).1.isOk = accepts m.address) {t : Session σ C}
    (hstep : s.Step connect t) : t.Follows accepts endpoint := by
  cases hstep with
  | elsewhere dialer record actions hothers hstate =>
    exact h.elsewhere dialer record hothers hstate
  | turn => exact h.turned hverdict
  | resolveNow => exact h.resolved hverdict
  | markReady a =>
    refine h.withConnections ?_ ?_ <;> unfold Connections.markReady <;> split <;> rfl
  | markUnready a =>
    refine h.withConnections ?_ ?_ <;> unfold Connections.markUnready <;> split <;> rfl

theorem Follows.run (h : s.Follows accepts endpoint)
    (hverdict : ∀ w m, (connect w m).1.isOk = accepts m.address) {t : Session σ C}
    (hrun : Relation.ReflTransGen (Step connect) s t) : t.Follows accepts endpoint := by
  induction hrun with
  | refl => exact h
  | tail _ hstep ih => exact ih.step hverdict hstep

/-! ## Runs of a dialed channel -/

variable {d d' : Dialer} {w w' : σ} {inRuntime : Bool} {target policy : String}
  {channel : Dialed C} {r : Registry} {buffer : Nat} {past : List State.Action}

/-- A dialed channel holds what is listed from the start. -/
theorem follows_dial (hverdict : ∀ w m, (connect w m).1.isOk = accepts m.address)
    (hdial : d.dial connect w inRuntime target policy = .ok (channel, d', w'))
    (hr : d.registries[channel.source]? = some r)
    (hpast : r.state = (State.new buffer).performAll past) :
    Follows accepts channel.target.endpoint ⟨channel, d', w'⟩ := by
  obtain ⟨options, _, _, _, _, hresolver, rfl, hconnections⟩ := Dialer.dial_eq_ok hdial
  have hplace : channel.source < d.registries.length := (List.getElem?_eq_some_iff.mp hr).1
  have hat : d.registryAt channel.source = r := by
    rw [Dialer.registryAt, List.getD_eq_getElem?_getD, hr, Option.getD_some]
  rw [hat] at hresolver hconnections ⊢
  have hregistry : (Session.mk channel (d.setRegistry channel.source
      (r.watch r.nextId channel.target.endpoint)) w').registry =
        r.watch r.nextId channel.target.endpoint :=
    Dialer.registryAt_setRegistry hplace _
  have hnew : Accepted accepts (Connections.new options : Connections C) := ⟨rfl, nofun⟩
  have hsink := hnew.sink hverdict w
    ((r.watch r.nextId channel.target.endpoint).instances channel.target.endpoint)
  rw [← congrArg Prod.fst hconnections] at hsink
  have hlive := State.live_subscribe channel.target.endpoint
    (hpast ▸ State.buffer_pos buffer past) r.subscription?_nextId
  refine ⟨?_, ?_, ?_, hsink.1, r.state.opening r.nextId channel.target.endpoint, ?_, fun _ => ?_⟩
  · rw [hresolver]
  · rw [hresolver]
  · rw [hresolver]
  · rw [hregistry, Registry.state_watch, hresolver]
    exact hlive
  · rw [hregistry]
    exact hsink.2

/-- From the moment a channel is dialed on a registry, and whatever the registry went through
before, after any steps in any order: when nothing waits for the channel's resolver, the channel
holds connections to exactly the addresses that its service lists and the connector accepts, and
those among them are ready that are not marked. The background work never ends by itself, and its
next turn leaves nothing waiting. -/
theorem converges (hverdict : ∀ w m, (connect w m).1.isOk = accepts m.address)
    (hdial : d.dial connect w inRuntime target policy = .ok (channel, d', w'))
    (hr : d.registries[channel.source]? = some r)
    (hpast : r.state = (State.new buffer).performAll past)
    (hrun : Relation.ReflTransGen (Step connect) ⟨channel, d', w'⟩ s) :
    (s.waiting = [] →
      (∀ a, (s.channel.connections.held.get? a).isSome = true ↔
        hasAddress (s.registry.instances channel.target.endpoint) a = true ∧ accepts a = true) ∧
      ∀ a, a ∈ s.channel.connections.readyAddresses ↔
        (hasAddress (s.registry.instances channel.target.endpoint) a = true ∧ accepts a = true) ∧
          a ∉ s.channel.connections.unready) ∧
    s.channel.resolver.isRunning = true ∧ (s.turned connect).waiting = [] := by
  have h := (follows_dial hverdict hdial hr hpast).run hverdict hrun
  obtain ⟨sub, hlive, hholds⟩ := h.current
  refine ⟨fun hidle => ?_, h.isRunning, ?_⟩
  · have hqueue : sub.queue = [] := by
      rw [waiting, hlive.found] at hidle
      exact hidle
    have hheld : ∀ a, (s.channel.connections.held.get? a).isSome = true ↔
        hasAddress (s.registry.instances channel.target.endpoint) a = true ∧ accepts a = true :=
      fun a => by rw [hholds hqueue a, Bool.and_eq_true]
    refine ⟨hheld, fun a => ?_⟩
    rw [← hheld, Connections.mem_readyAddresses]
  · rw [h.turned_eq connect hlive]
    show ((s.received.registry.state.subscription? s.channel.resolver.watcher).map _).getD [] = []
    rw [(live_received hlive).found]
    exact List.drop_length

/-- A connector that refuses one address. -/
def refusing (address : String) : Connector Unit String := fun w m =>
  (if m.address != address then .ok m.address else .error .noConnectionAvailable, w)

/-- One change fits in the queue and four come. -/
theorem converges_after_overflow :
    let r := Registry.static ((State.new 1).performAll [.commit "users" [⟨"users", "a:1"⟩]])
    let d := (Dialer.addRegistry {} r).2.installDefaults 0 {}
    let is : List Instance := [⟨"users", "b:1"⟩, ⟨"users", "c:1"⟩, ⟨"users", "d:1"⟩]
    let accepts : String → Bool := fun a => a != "b:1"
    ∃ channel d', d.dial (refusing "b:1") () true "registry:///users" "shard" =
        .ok (channel, d', ()) ∧
      let s := (committed ⟨channel, d', ()⟩ "users" is).turned (refusing "b:1")
      s.waiting = [] ∧ ∀ a, (s.channel.connections.held.get? a).isSome = true ↔
        hasAddress (s.registry.instances channel.target.endpoint) a = true ∧
          accepts a = true := by
  intro r d is accepts
  have hverdict : ∀ w m, (refusing "b:1" w m).1.isOk = accepts m.address := by
    intro w m
    show (refusing "b:1" w m).1.isOk = (m.address != "b:1")
    unfold refusing
    cases m.address != "b:1" <;> rfl
  obtain ⟨⟨channel, d', ⟨⟩⟩, hdial⟩ :
      ∃ x, d.dial (refusing "b:1") () true "registry:///users" "shard" = .ok x := ⟨_, rfl⟩
  obtain ⟨_, htarget, hsource, _, _, _, hd', _⟩ := Dialer.dial_eq_ok hdial
  have hplace : channel.source = 0 := by
    rw [← Except.ok.inj htarget] at hsource
    exact (Option.some.inj hsource).symm
  have hr : d.registries[channel.source]? = some r := by
    rw [hplace]
    rfl
  have hlength : channel.source < d'.registries.length := by
    rw [hd', hplace]
    exact Nat.one_pos
  have hcommit := Relation.ReflTransGen.single
    (Step.commit (refusing "b:1") ⟨channel, d', ()⟩ hlength "users" is)
  have hidle := (converges hverdict hdial hr rfl hcommit).2.2
  have hturned := (converges hverdict hdial hr rfl (hcommit.tail .turn)).1 hidle
  exact ⟨channel, d', hdial, hidle, hturned.1⟩

end Session

end Roster
