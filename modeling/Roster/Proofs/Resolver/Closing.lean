import Roster.Proofs.Convergence
import Roster.Proofs.Registry.Contract
import Roster.Proofs.Registry.Rolls
import Roster.Proofs.Resolver.Pushes

/-!
# Closing is final

A resolver owns a subscription from its start (`Resolver.Owns`), whatever is done to it elsewhere.
When the resolver is closed it hands nothing on any more, and its next turn, whatever waits, ends
its work and takes the subscription off the list (`Resolver.Owns.final`). The same holds of the
resolver of a channel that was dropped (`Session.Gone`); the channel's connections are shut
(`Connections.IsShut`), which nothing undoes.
-/

namespace Roster

/-! ## What a resolver owns -/

theorem State.isListed_without {s : State} {id a : Nat} (h : id ≠ a) :
    (s.without a).isListed id = s.isListed id := by
  rw [isListed, isListed, subscription?_without h]

namespace Resolver

variable {ω : Type} {r : Resolver} {registry : Registry} {s : State}

/-- A resolver's subscription is there, and off the list once the background work is over. -/
def Owns (r : Resolver) (s : State) : Prop :=
  ∃ sub, s.Fits r.watcher r.service sub ∧ (r.isRunning = false → sub.isListed = false)

theorem Owns.elsewhere (h : r.Owns s) {actions : List State.Action}
    (hnew : ∀ action ∈ actions, action.given? ≠ some r.watcher) :
    r.Owns (s.performAll actions) := by
  obtain ⟨sub, hfits, hover⟩ := h
  cases hlisted : sub.isListed with
  | true =>
    obtain ⟨sub', hfits', _⟩ := hfits.performAll hnew
    refine ⟨sub', hfits', fun hrunning => ?_⟩
    rw [hover hrunning] at hlisted
    cases hlisted
  | false =>
    obtain ⟨sub', hfits', hlisted', _⟩ := hfits.performAll_of_unlisted hlisted hnew
    exact ⟨sub', hfits', fun _ => hlisted'⟩

theorem owns_start {id : Nat} (hfree : registry.state.subscription? id = none)
    (service : String) :
    Owns { service, watcher := id } (registry.watch id service).state := by
  rw [Registry.state_watch]
  exact ⟨_, State.fits_subscribe service hfree, nofun⟩

theorem state_finish (r : Resolver) (registry : Registry) :
    (r.finish registry).2.state =
      registry.state.performAll [.stop r.watcher, .dropReceiver r.watcher] := by
  show ((registry.stop r.watcher).dropReceiver r.watcher).state = _
  rw [Registry.state_dropReceiver, Registry.state_stop]
  rfl

/-- When the work ends, the resolver's subscription leaves the list, and no other one changes. -/
theorem Owns.finish (h : r.Owns registry.state) :
    (r.finish registry).1.Owns (r.finish registry).2.state ∧
      (r.finish registry).2.state.isListed r.watcher = false ∧
      (r.finish registry).2.state.without r.watcher = registry.state.without r.watcher := by
  obtain ⟨sub, hfits, _⟩ := h
  obtain ⟨stopped, hstopped, hlisted, _⟩ := hfits.ends (Or.inl rfl)
  have hnew : ∀ action ∈ [State.Action.dropReceiver r.watcher],
      action.given? ≠ some r.watcher := by simp [State.Action.given?]
  obtain ⟨dropped, hdropped, hlisted', _⟩ := hstopped.performAll_of_unlisted hlisted hnew
  rw [state_finish]
  refine ⟨⟨dropped, hdropped, fun _ => hlisted'⟩, ?_, ?_⟩
  · show (State.isListed _ r.watcher) = false
    rw [State.isListed, State.performAll_cons, hdropped.found]
    exact hlisted'
  · rw [State.performAll_cons, State.performAll_cons, State.performAll_nil,
      State.without_perform_self rfl, State.without_perform_self rfl]

theorem Owns.turn (h : r.Owns registry.state) (sink : Sink ω) (w : ω) :
    (r.turn registry sink w).1.Owns (r.turn registry sink w).2.1.state ∧
      (r.turn registry sink w).1.watcher = r.watcher := by
  unfold Resolver.turn
  split
  · exact ⟨h, rfl⟩
  · split
    · exact ⟨h.finish.1, rfl⟩
    · cases hreceive : registry.receive r.watcher none with
      | none => exact ⟨h, rfl⟩
      | some q =>
        have hstate : q.2.state = registry.state.performAll [.receive r.watcher none] := by
          obtain ⟨p, hp, rfl⟩ := Option.map_eq_some_iff.mp hreceive
          rw [Registry.state_withState, State.performAll_cons, State.performAll_nil, State.perform,
            hp]
          rfl
        have hnext : r.Owns q.2.state := by
          rw [hstate]
          exact h.elsewhere (by simp [State.Action.given?])
        dsimp only
        split
        · exact ⟨hnext, rfl⟩
        · split
          · exact ⟨hnext.finish.1, rfl⟩
          · exact ⟨hnext, rfl⟩

/-- A turn leaves its receiver alone or hands one list on. -/
theorem turn_receiver (r : Resolver) (registry : Registry) (sink : Sink ω) (w : ω) :
    (r.turn registry sink w).2.2 = w ∨
      ∃ members, (r.turn registry sink w).2.2 = (sink w members).2 := by
  unfold Resolver.turn
  split
  · exact .inl rfl
  · split
    · exact .inl rfl
    · cases registry.receive r.watcher none with
      | none => exact .inl rfl
      | some q =>
        dsimp only
        split
        · exact .inr ⟨_, rfl⟩
        · split <;> exact .inl rfl

/-- What closing comes to: whoever might receive lists gets none any more, and the next turn of the
work, whatever waits, ends it and takes the resolver's own subscription off the list and no other.
Turns after that do nothing. -/
structure Final (r : Resolver) (registry : Registry) : Prop where
  resolveNow_eq : ∀ {ω : Type} (sink : Sink ω) (w : ω), r.resolveNow registry sink w = w
  turn_eq : ∀ {ω : Type} (sink : Sink ω) (w : ω), ∃ next,
    r.turn registry sink w = ({ r with isRunning := false }, next, w) ∧
      next.state.isListed r.watcher = false ∧
      next.state.without r.watcher = registry.state.without r.watcher ∧
      (r.isRunning = false → next = registry)

theorem Owns.final (h : r.Owns registry.state) (hclosed : r.isClosed = true) :
    r.Final registry := by
  refine ⟨fun sink w => if_pos hclosed, fun sink w => ?_⟩
  cases hrunning : r.isRunning with
  | false =>
    obtain ⟨sub, hfits, hover⟩ := h
    have hsame : { r with isRunning := false } = r := by
      cases r
      cases hrunning
      rfl
    refine ⟨registry, ?_, ?_, rfl, fun _ => rfl⟩
    · rw [hsame]
      exact if_pos (by rw [hrunning]; rfl)
    · rw [State.isListed, hfits.found]
      exact hover hrunning
  | true =>
    obtain ⟨_, hlisted, hothers⟩ := h.finish
    have hturn : r.turn registry sink w =
        ((r.finish registry).1, (r.finish registry).2, w) := by
      unfold Resolver.turn
      rw [hrunning, hclosed]
      rfl
    refine ⟨(r.finish registry).2, hturn, hlisted, hothers, fun hstopped => ?_⟩
    cases hstopped

end Resolver

/-! ## Closed resolvers -/

namespace Handover

variable {ω : Type} {sink : Sink ω} {s t : Handover ω}

/-- The work after the resolver was closed or dropped. -/
def closed (s : Handover ω) : Handover ω := { s with resolver := s.resolver.close }

/-- What can happen around a resolver, closed or not. -/
inductive Event (sink : Sink ω) (s : Handover ω) : Handover ω → Prop where
  /-- Anything is done to the registry, even about the resolver's own subscription, and the receiver
  may have changed its mind. -/
  | elsewhere (registry : Registry) (receiver : ω) (actions : List State.Action)
      (hnew : ∀ action ∈ actions, action.given? ≠ some s.resolver.watcher)
      (hstate : registry.state = s.registry.state.performAll actions) :
      Event sink s { s with registry, receiver }
  | turn : Event sink s (s.turned sink)
  | resolveNow : Event sink s (s.resolved sink)
  | close : Event sink s s.closed

theorem Step.event (h : s.Step sink t) : s.Event sink t := by
  cases h with
  | elsewhere registry receiver actions hothers hstate =>
    exact .elsewhere registry receiver actions
      (fun action haction => State.Action.given?_ne (hothers action haction)) hstate
  | turn => exact .turn
  | resolveNow => exact .resolveNow

structure Attends (id : Nat) (s : Handover ω) : Prop where
  watcher_eq : s.resolver.watcher = id
  owns : s.resolver.Owns s.registry.state

variable {id : Nat}

theorem Attends.event (h : s.Attends id) (hevent : s.Event sink t) : t.Attends id := by
  cases hevent with
  | elsewhere registry receiver actions hnew hstate =>
    refine ⟨h.watcher_eq, ?_⟩
    show s.resolver.Owns registry.state
    rw [hstate]
    exact h.owns.elsewhere hnew
  | turn =>
    obtain ⟨howns, hwatcher⟩ := h.owns.turn sink.noting (s.handed, s.receiver)
    exact ⟨hwatcher.trans h.watcher_eq, howns⟩
  | resolveNow => exact ⟨h.watcher_eq, h.owns⟩
  | close => exact ⟨h.watcher_eq, h.owns⟩

theorem Attends.run (h : s.Attends id) (hrun : Relation.ReflTransGen (Event sink) s t) :
    t.Attends id := by
  induction hrun with
  | refl => exact h
  | tail _ hevent ih => exact ih.event hevent

/-- A closed resolver attends to its subscription, and some lists were handed on before. -/
structure Silent (id : Nat) (handed : List (List Instance)) (s : Handover ω) : Prop where
  attends : s.Attends id
  isClosed : s.resolver.isClosed = true
  handed_eq : s.handed = handed

variable {handed : List (List Instance)}

theorem Silent.event (h : s.Silent id handed) (hevent : s.Event sink t) : t.Silent id handed := by
  have hfinal := h.attends.owns.final h.isClosed
  refine ⟨h.attends.event hevent, ?_, ?_⟩
  · cases hevent with
    | elsewhere registry receiver actions hnew hstate => exact h.isClosed
    | turn =>
      obtain ⟨next, hturn, _⟩ := hfinal.turn_eq sink.noting (s.handed, s.receiver)
      rw [turned, hturn]
      exact h.isClosed
    | resolveNow => exact h.isClosed
    | close => rfl
  · cases hevent with
    | elsewhere registry receiver actions hnew hstate => exact h.handed_eq
    | turn =>
      obtain ⟨next, hturn, _⟩ := hfinal.turn_eq sink.noting (s.handed, s.receiver)
      rw [turned, hturn]
      exact h.handed_eq
    | resolveNow =>
      rw [resolved, hfinal.resolveNow_eq]
      exact h.handed_eq
    | close => exact h.handed_eq

theorem Silent.run (h : s.Silent id handed) (hrun : Relation.ReflTransGen (Event sink) s t) :
    t.Silent id handed := by
  induction hrun with
  | refl => exact h
  | tail _ hevent ih => exact ih.event hevent

theorem Attends.silent_closed (h : s.Attends id) : s.closed.Silent id s.handed :=
  ⟨⟨h.watcher_eq, h.owns⟩, rfl, rfl⟩

theorem attends_start {registry : Registry} {service : String} {receiver : ω}
    (hfree : registry.state.subscription? id = none)
    (hstart : start service id registry sink receiver = .ok s) : s.Attends id := by
  obtain rfl := Except.ok.inj hstart
  exact ⟨rfl, Resolver.owns_start hfree service⟩

end Handover

/-! ## Shut connections -/

namespace Connections

variable {σ C : Type} {c : Connections C}

/-- Connections that are closed: nothing is held or marked, and no call gets anything. -/
structure IsShut (c : Connections C) : Prop where
  isClosed : c.isClosed = true
  held_eq : c.held = Table.empty
  unready_eq : c.unready = []
  picker_eq : c.balancer.picker = some (.failing .noConnectionAvailable)

theorem isShut_close (h : c.isClosed = true → c.IsShut) : c.close.IsShut := by
  unfold Connections.close
  split
  · next hclosed => exact h hclosed
  · exact ⟨rfl, rfl, rfl, congrArg some (PickerBuilder.pickerFor_empty _)⟩

theorem IsShut.markReady (h : c.IsShut) (address : String) : c.markReady address = c := by
  refine if_neg ?_
  rw [h.unready_eq]
  exact Bool.false_ne_true

theorem IsShut.markUnready (h : c.IsShut) (address : String) : c.markUnready address = c := by
  refine if_neg ?_
  rw [h.held_eq]
  exact Bool.false_ne_true

theorem IsShut.sink (h : c.IsShut) (connect : Connector σ C) (w : σ) (members : List Instance) :
    Connections.sink connect (c, w) members = (.error .sinkClosed, (c, w)) := by
  unfold Connections.sink update
  dsimp only
  rw [if_pos h.isClosed]

theorem IsShut.pick (h : c.IsShut) (draw : Nat) (call : Call) :
    c.pick draw call = .error .noConnectionAvailable := by
  unfold Connections.pick Balancer.pick
  rw [h.picker_eq]
  rfl

theorem isClosed_markReady (c : Connections C) (address : String) :
    (c.markReady address).isClosed = c.isClosed := by
  unfold Connections.markReady
  split <;> rfl

theorem isClosed_markUnready (c : Connections C) (address : String) :
    (c.markUnready address).isClosed = c.isClosed := by
  unfold Connections.markUnready
  split <;> rfl

theorem isClosed_sink (c : Connections C) (connect : Connector σ C) (w : σ)
    (members : List Instance) :
    (Connections.sink connect (c, w) members).2.1.isClosed = c.isClosed := by
  cases hclosed : c.isClosed with
  | false => exact (Connections.held_sink hclosed).2
  | true =>
    unfold Connections.sink Connections.update
    dsimp only
    rw [if_pos hclosed]
    exact hclosed

theorem isShut_sink (h : c.isClosed = true → c.IsShut) (connect : Connector σ C) (w : σ)
    (members : List Instance) (hclosed : (Connections.sink connect (c, w) members).2.1.isClosed) :
    (Connections.sink connect (c, w) members).2.1.IsShut := by
  rw [isClosed_sink] at hclosed
  rw [(h hclosed).sink]
  exact h hclosed

theorem isShut_markReady (h : c.isClosed = true → c.IsShut) (address : String)
    (hclosed : (c.markReady address).isClosed = true) : (c.markReady address).IsShut := by
  rw [isClosed_markReady] at hclosed
  rw [(h hclosed).markReady]
  exact h hclosed

theorem isShut_markUnready (h : c.isClosed = true → c.IsShut) (address : String)
    (hclosed : (c.markUnready address).isClosed = true) : (c.markUnready address).IsShut := by
  rw [isClosed_markUnready] at hclosed
  rw [(h hclosed).markUnready]
  exact h hclosed

end Connections

/-! ## Dropped channels -/

namespace Session

variable {σ C : Type} {connect : Connector σ C} {s t : Session σ C}

def dropped (s : Session σ C) : Session σ C := { s with channel := s.channel.drop }

def pushed (s : Session σ C) (connect : Connector σ C) (members : List Instance) : Session σ C :=
  let (connections, record) :=
    (Connections.sink connect (s.channel.connections, s.record) members).2
  { s.withConnections connections with record }

inductive Event (connect : Connector σ C) (s : Session σ C) : Session σ C → Prop where
  | elsewhere (dialer : Dialer) (record : σ) (actions : List State.Action)
      (hnew : ∀ action ∈ actions, action.given? ≠ some s.channel.resolver.watcher)
      (hstate : (dialer.registryAt s.channel.source).state = s.registry.state.performAll actions) :
      Event connect s { s with dialer, record }
  | turn : Event connect s (s.turned connect)
  | resolveNow : Event connect s (s.resolved connect)
  | push (members : List Instance) : Event connect s (s.pushed connect members)
  | markReady (address : String) :
      Event connect s (s.withConnections (s.channel.connections.markReady address))
  | markUnready (address : String) :
      Event connect s (s.withConnections (s.channel.connections.markUnready address))
  | drop : Event connect s s.dropped

theorem Step.event (h : s.Step connect t) : s.Event connect t := by
  cases h with
  | elsewhere dialer record actions hothers hstate =>
    exact .elsewhere dialer record actions
      (fun action haction => State.Action.given?_ne (hothers action haction)) hstate
  | turn => exact .turn
  | resolveNow => exact .resolveNow
  | markReady address => exact .markReady address
  | markUnready address => exact .markUnready address

/-- The channel's resolver has its subscription under a number, and if the connections are closed
they are shut. -/
structure Attends (id : Nat) (s : Session σ C) : Prop where
  watcher_eq : s.channel.resolver.watcher = id
  owns : s.channel.resolver.Owns s.registry.state
  shut : s.channel.connections.isClosed = true → s.channel.connections.IsShut

variable {id : Nat}

theorem Attends.lt_length (h : s.Attends id) :
    s.channel.source < s.dialer.registries.length := by
  obtain ⟨sub, hfits, _⟩ := h.owns
  exact Dialer.lt_of_subscription? hfits.found

theorem turned_eq (h : s.channel.source < s.dialer.registries.length) (connect : Connector σ C) :
    let q := s.channel.resolver.turn s.registry (Connections.sink connect)
      (s.channel.connections, s.record)
    (s.turned connect).channel = { s.channel with resolver := q.1, connections := q.2.2.1 } ∧
      (s.turned connect).registry = q.2.1 :=
  ⟨rfl, Dialer.registryAt_setRegistry h _⟩

theorem Attends.elsewhere (h : s.Attends id) (dialer : Dialer) (record : σ)
    {actions : List State.Action}
    (hnew : ∀ action ∈ actions, action.given? ≠ some s.channel.resolver.watcher)
    (hstate : (dialer.registryAt s.channel.source).state = s.registry.state.performAll actions) :
    Attends id { s with dialer, record } := by
  refine ⟨h.watcher_eq, ?_, h.shut⟩
  show s.channel.resolver.Owns (dialer.registryAt s.channel.source).state
  rw [hstate]
  exact h.owns.elsewhere hnew

theorem Attends.withConnections (h : s.Attends id) {c : Connections C}
    (hshut : c.isClosed = true → c.IsShut) (record : σ) :
    Attends id { s.withConnections c with record } :=
  ⟨h.watcher_eq, h.owns, hshut⟩

theorem Attends.turned (h : s.Attends id) (connect : Connector σ C) :
    (s.turned connect).Attends id := by
  obtain ⟨hchannel, hregistry⟩ := turned_eq h.lt_length connect
  obtain ⟨howns, hwatcher⟩ :=
    h.owns.turn (Connections.sink connect) (s.channel.connections, s.record)
  refine ⟨?_, ?_, ?_⟩
  · rw [hchannel]
    exact hwatcher.trans h.watcher_eq
  · rw [hchannel, hregistry]
    exact howns
  · rw [hchannel]
    rcases s.channel.resolver.turn_receiver s.registry (Connections.sink connect)
      (s.channel.connections, s.record) with hsame | ⟨members, hsame⟩
    · rw [hsame]
      exact h.shut
    · rw [hsame]
      exact Connections.isShut_sink h.shut connect s.record members

theorem resolved_of_closed (hclosed : s.channel.resolver.isClosed = true)
    (connect : Connector σ C) : s.resolved connect = s := by
  rw [resolved, Dialed.resolveNow, Resolver.resolveNow, hclosed]
  rfl

theorem Attends.resolved (h : s.Attends id) (connect : Connector σ C) :
    (s.resolved connect).Attends id := by
  cases hclosed : s.channel.resolver.isClosed with
  | true =>
    rw [resolved_of_closed hclosed]
    exact h
  | false =>
    have hresolved : s.resolved connect =
        s.pushed connect (s.registry.instances s.channel.resolver.service) := by
      rw [Session.resolved, Dialed.resolveNow, Resolver.resolveNow, hclosed,
        if_neg Bool.false_ne_true]
      rfl
    rw [hresolved]
    exact h.withConnections (Connections.isShut_sink h.shut connect s.record _) _

theorem Attends.dropped (h : s.Attends id) : s.dropped.Attends id :=
  ⟨h.watcher_eq, h.owns, fun _ => Connections.isShut_close h.shut⟩

theorem Attends.event (h : s.Attends id) (hevent : s.Event connect t) : t.Attends id := by
  cases hevent with
  | elsewhere dialer record actions hnew hstate => exact h.elsewhere dialer record hnew hstate
  | turn => exact h.turned connect
  | resolveNow => exact h.resolved connect
  | push members =>
    exact h.withConnections (Connections.isShut_sink h.shut connect s.record members) _
  | markReady address =>
    exact h.withConnections (Connections.isShut_markReady h.shut address) s.record
  | markUnready address =>
    exact h.withConnections (Connections.isShut_markUnready h.shut address) s.record
  | drop => exact h.dropped

theorem Attends.run (h : s.Attends id) (hrun : Relation.ReflTransGen (Event connect) s t) :
    t.Attends id := by
  induction hrun with
  | refl => exact h
  | tail _ hevent ih => exact ih.event hevent

/-- A channel that was dropped: its resolver is closed, and its connections are shut. -/
structure Gone (id : Nat) (s : Session σ C) : Prop where
  attends : s.Attends id
  isClosed : s.channel.resolver.isClosed = true
  shut : s.channel.connections.IsShut

theorem Attends.gone_dropped (h : s.Attends id) : s.dropped.Gone id :=
  ⟨h.dropped, rfl, Connections.isShut_close h.shut⟩

theorem Gone.pushed_eq (h : s.Gone id) (connect : Connector σ C) (members : List Instance) :
    s.pushed connect members = s := by
  rw [pushed, h.shut.sink]
  rfl

theorem Gone.event (h : s.Gone id) (hevent : s.Event connect t) : t.Gone id := by
  cases hevent with
  | elsewhere dialer record actions hnew hstate =>
    exact ⟨h.attends.elsewhere dialer record hnew hstate, h.isClosed, h.shut⟩
  | turn =>
    have hchannel := (turned_eq h.attends.lt_length connect).1
    obtain ⟨next, hturn, _⟩ := (h.attends.owns.final h.isClosed).turn_eq
      (Connections.sink connect) (s.channel.connections, s.record)
    refine ⟨h.attends.turned connect, ?_, ?_⟩
    · rw [hchannel, hturn]
      exact h.isClosed
    · rw [hchannel, hturn]
      exact h.shut
  | resolveNow =>
    rw [resolved_of_closed h.isClosed]
    exact h
  | push members =>
    rw [h.pushed_eq]
    exact h
  | markReady address =>
    rw [h.shut.markReady]
    exact h
  | markUnready address =>
    rw [h.shut.markUnready]
    exact h
  | drop => exact h.attends.gone_dropped

theorem Gone.run (h : s.Gone id) (hrun : Relation.ReflTransGen (Event connect) s t) :
    t.Gone id := by
  induction hrun with
  | refl => exact h
  | tail _ hevent ih => exact ih.event hevent

theorem attends_dial {d d' : Dialer} {w w' : σ} {inRuntime : Bool} {target policy : String}
    {channel : Dialed C} (hdial : d.dial connect w inRuntime target policy = .ok (channel, d', w'))
    (hplace : channel.source < d.registries.length) :
    Attends channel.resolver.watcher (Session.mk channel d' w') := by
  obtain ⟨options, _, _, _, _, hresolver, rfl, hconnections⟩ := Dialer.dial_eq_ok hdial
  refine ⟨rfl, ?_, fun hclosed => ?_⟩
  · show channel.resolver.Owns (Dialer.registryAt _ channel.source).state
    rw [Dialer.registryAt_setRegistry hplace, hresolver]
    exact Resolver.owns_start (Registry.subscription?_nextId _) channel.target.endpoint
  · rw [show channel.connections = _ from congrArg Prod.fst hconnections,
      Connections.isClosed_sink] at hclosed
    cases hclosed

end Session

/-! ## Closing is final -/

namespace Resolver

/-- A resolver that was closed or dropped, with whatever waits and after any steps, hands nothing on
in any steps that follow, however often it is closed again. From each state that they reach, the
next turn of its work takes its subscription off the list and no other. All this holds of the
resolver of a channel that was dropped too. The channel's connections are empty for ever: a list is
refused, marks change nothing, and no call gets a connection. -/
theorem closing_final {σ C : Type} (connect : Connector σ C) :
    (∀ {ω : Type} {sink : Sink ω} {receiver : ω} {registry : Registry} {service : String}
        {id : Nat} {first s t : Handover ω},
      registry.state.subscription? id = none →
      Handover.start service id registry sink receiver = .ok first →
      Relation.ReflTransGen (Handover.Event sink) first s →
      Relation.ReflTransGen (Handover.Event sink) s.closed t →
        t.resolver.watcher = id ∧ t.handed = s.handed ∧ t.resolver.Final t.registry) ∧
    ∀ {d d' : Dialer} {w w' : σ} {inRuntime : Bool} {target policy : String} {channel : Dialed C}
        {s t : Session σ C},
      channel.source < d.registries.length →
      d.dial connect w inRuntime target policy = .ok (channel, d', w') →
      Relation.ReflTransGen (Session.Event connect) ⟨channel, d', w'⟩ s →
      Relation.ReflTransGen (Session.Event connect) s.dropped t →
        t.channel.resolver.watcher = channel.resolver.watcher ∧
        t.channel.resolver.Final t.registry ∧
        let c := t.channel.connections
        c.held = Table.empty ∧
        (∀ w members, Connections.sink connect (c, w) members = (.error .sinkClosed, (c, w))) ∧
        (∀ address, c.markReady address = c) ∧ (∀ address, c.markUnready address = c) ∧
        ∀ draw call, c.pick draw call = .error .noConnectionAvailable := by
  refine ⟨fun hfree hstart hbefore hafter => ?resolver, fun hplace hdial hbefore hafter => ?channel⟩
  case resolver =>
    have hs := (Handover.attends_start hfree hstart).run hbefore
    have ht := hs.silent_closed.run hafter
    exact ⟨ht.attends.watcher_eq, ht.handed_eq, ht.attends.owns.final ht.isClosed⟩
  case channel =>
    have hs := (Session.attends_dial hdial hplace).run hbefore
    have ht := hs.gone_dropped.run hafter
    exact ⟨ht.attends.watcher_eq, ht.attends.owns.final ht.isClosed, ht.shut.held_eq,
      ht.shut.sink connect, ht.shut.markReady, ht.shut.markUnready, ht.shut.pick⟩

/-- Changes wait when a resolver is closed and when a channel is dropped. Another subscription to
the same service stays. -/
theorem closing_final_queued :
    let registry := Registry.static ((State.new 4).performAll
      [.commit "users" [⟨"users", "a:1"⟩], .subscribe 5 "users"])
    let d := (Dialer.addRegistry {} registry).2.installDefaults 0 {}
    let accept : Connector Unit String := fun w m => (.ok m.address, w)
    let is : List Instance := [⟨"users", "b:1"⟩, ⟨"users", "c:1"⟩]
    (registry.state.subscription? 0 = none ∧
      ∃ first, Handover.start "users" 0 registry Handover.refusal () = .ok first ∧
        let s : Handover Unit :=
          { first with
            registry := first.registry.withState (first.registry.state.commit "users" is).2 }
        let t := s.closed.turned Handover.refusal
        s.waiting ≠ [] ∧ t.handed = first.handed ∧ t.resolver.isRunning = false ∧
          t.registry.state.isListed 0 = false ∧ t.registry.state.isListed 5 = true) ∧
      ∃ channel d', d.dial accept () true "registry:///users" "shard" = .ok (channel, d', ()) ∧
        let s := Session.committed ⟨channel, d', ()⟩ "users" is
        let t := s.dropped.turned accept
        s.waiting ≠ [] ∧ t.channel.connections.held = Table.empty ∧
          t.registry.state.isListed channel.resolver.watcher = false ∧
          t.registry.state.isListed 5 = true ∧
          ∀ draw call,
            t.channel.connections.pick draw call = .error .noConnectionAvailable := by
  intro registry d accept is
  obtain ⟨hresolver, hchannel⟩ := closing_final accept
  refine ⟨⟨by decide +kernel, ?resolver⟩, ?channel⟩
  case resolver =>
    obtain ⟨first, hstart⟩ : ∃ first,
        Handover.start "users" 0 registry Handover.refusal () = .ok first := ⟨_, rfl⟩
    refine ⟨first, hstart, ?_⟩
    intro s t
    have hbefore := Relation.ReflTransGen.single
      (Handover.Step.commit Handover.refusal first "users" is).event
    obtain ⟨_, hhanded, _⟩ := hresolver (by decide +kernel) hstart hbefore (.single .turn)
    obtain ⟨_, _, hfinal⟩ := hresolver (by decide +kernel) hstart hbefore .refl
    obtain ⟨next, hturn, hlisted, _⟩ :=
      hfinal.turn_eq Handover.refusal.noting (s.handed, s.receiver)
    have ht : t.resolver = { s.resolver.close with isRunning := false } ∧ t.registry = next :=
      ⟨congrArg Prod.fst hturn, congrArg (fun q => q.2.1) hturn⟩
    obtain rfl := Except.ok.inj hstart
    refine ⟨by decide +kernel, hhanded, ?_, ?_, by decide +kernel⟩
    · rw [ht.1]
    · rw [ht.2]
      exact hlisted
  case channel =>
    obtain ⟨⟨channel, d', ⟨⟩⟩, hdial⟩ :
        ∃ x, d.dial accept () true "registry:///users" "shard" = .ok x := ⟨_, rfl⟩
    refine ⟨channel, d', hdial, ?_⟩
    intro s t
    have hplaces : channel.source < d.registries.length ∧
        channel.source < d'.registries.length := by
      cases Except.ok.inj hdial
      decide +kernel
    have hbefore := Relation.ReflTransGen.single
      (Session.Step.commit accept ⟨channel, d', ()⟩ hplaces.2 "users" is).event
    obtain ⟨_, _, hempty, _, _, _, hpick⟩ := hchannel hplaces.1 hdial hbefore (.single .turn)
    obtain ⟨_, hfinal, _⟩ := hchannel hplaces.1 hdial hbefore .refl
    obtain ⟨next, hturn, hlisted, hothers, _⟩ :=
      hfinal.turn_eq (Connections.sink accept) (s.dropped.channel.connections, s.record)
    have hplace : s.dropped.channel.source < s.dropped.dialer.registries.length :=
      ((Session.attends_dial hdial hplaces.1).run hbefore).lt_length
    have ht : t.registry = next :=
      (Session.turned_eq hplace accept).2.trans (congrArg (fun q => q.2.1) hturn)
    refine ⟨?_, hempty, ?_, ?_, hpick⟩
    · cases Except.ok.inj hdial
      decide +kernel
    · rw [ht]
      exact hlisted
    · have hwatcher : channel.resolver.watcher ≠ 5 ∧
          s.dropped.registry.state.isListed 5 = true := by
        cases Except.ok.inj hdial
        decide +kernel
      calc t.registry.state.isListed 5
        _ = next.state.isListed 5 := by rw [ht]
        _ = (next.state.without channel.resolver.watcher).isListed 5 :=
          (State.isListed_without hwatcher.1.symm).symm
        _ = (s.dropped.registry.state.without channel.resolver.watcher).isListed 5 :=
          congrArg (State.isListed · 5) hothers
        _ = s.dropped.registry.state.isListed 5 := State.isListed_without hwatcher.1.symm
        _ = true := hwatcher.2

end Resolver

end Roster
