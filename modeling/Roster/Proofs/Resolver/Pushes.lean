import Mathlib.Logic.Relation
import Roster.Proofs.Resolver

/-!
# The lists that a resolver hands on

A resolver hands lists to a receiver that may refuse any of them. Here the receiver notes what it is
handed (`Sink.noting`), and goes on as it would without the notes. Whatever it answers, a turn hands
on the members as they are then if anything waits, and an explicit push does so always
(`Current.turned_eq`, `Current.resolved_eq`). The invariant `Current` says that whenever nothing
waits the last list has the addresses of the members: changes are dropped only while others wait,
and these others bring the next turn to hand the members on.
-/

namespace Roster

variable {ω : Type}

/-- The receiver that notes each list it is handed, and does and answers what another one does. -/
def Sink.noting (sink : Sink ω) : Sink (List (List Instance) × ω) := fun w members =>
  let (answer, receiver) := sink w.2 members
  (answer, w.1 ++ [members], receiver)

/-- A resolver at work, with its registry, its receiver, and the lists that were handed on. -/
structure Handover (ω : Type) where
  resolver : Resolver
  registry : Registry
  handed : List (List Instance)
  receiver : ω

namespace Handover

def start (service : String) (id : Nat) (registry : Registry) (sink : Sink ω) (receiver : ω) :
    Except RoutingError (Handover ω) :=
  (Resolver.start true service id registry sink.noting ([], receiver)).map fun
    | (resolver, registry, handed, receiver) => { resolver, registry, handed, receiver }

def turned (s : Handover ω) (sink : Sink ω) : Handover ω :=
  let (resolver, registry, handed, receiver) :=
    s.resolver.turn s.registry sink.noting (s.handed, s.receiver)
  { resolver, registry, handed, receiver }

def resolved (s : Handover ω) (sink : Sink ω) : Handover ω :=
  let (handed, receiver) := s.resolver.resolveNow s.registry sink.noting (s.handed, s.receiver)
  { s with handed, receiver }

def waiting (s : Handover ω) : List Change :=
  ((s.registry.state.subscription? s.resolver.watcher).map (·.queue)).getD []

/-- What can happen around a resolver that is not closed. -/
inductive Step (sink : Sink ω) (s : Handover ω) : Handover ω → Prop where
  | elsewhere (registry : Registry) (receiver : ω) (actions : List State.Action)
      (hothers : ∀ action ∈ actions, action.subject? ≠ some s.resolver.watcher)
      (hstate : registry.state = s.registry.state.performAll actions) :
      Step sink s { s with registry, receiver }
  | turn : Step sink s (s.turned sink)
  | resolveNow : Step sink s (s.resolved sink)

theorem Step.commit (sink : Sink ω) (s : Handover ω) (service : String) (is : List Instance) :
    Step sink s
      { s with registry := s.registry.withState (s.registry.state.commit service is).2 } := by
  refine .elsewhere _ s.receiver [.commit service is] ?_ ?_
  · intro action haction
    rw [List.mem_singleton.mp haction]
    exact nofun
  · rw [Registry.state_withState]
    rfl

/-! ## The invariant -/

/-- The resolver works on a live subscription, and the last list that was handed on has the
addresses of the members whenever nothing waits. -/
structure Current (service : String) (s : Handover ω) : Prop where
  service_eq : s.resolver.service = service
  isRunning : s.resolver.isRunning = true
  isKept : s.resolver.isClosed = false
  current : ∃ sub, s.registry.state.Live s.resolver.watcher service sub ∧
    (sub.queue = [] → ∃ last, s.handed.getLast? = some last ∧
      ∀ a, hasAddress last a = hasAddress (s.registry.instances service) a)

variable {service : String} {s t : Handover ω} {sink : Sink ω} {sub : Subscription}

def received (s : Handover ω) : Handover ω :=
  { s with
    registry :=
      s.registry.withState (s.registry.state.perform (.receive s.resolver.watcher none)) }

theorem instances_received :
    s.received.registry.instances service = s.registry.instances service := by
  rw [received, Registry.instances, Registry.state_withState, State.instances_perform]
  rfl

theorem live_received (hlive : s.registry.state.Live s.resolver.watcher service sub) :
    s.received.registry.state.Live s.resolver.watcher service (sub.drained none) := by
  rw [received, Registry.state_withState]
  exact hlive.receive

def pushed (s : Handover ω) (sink : Sink ω) (members : List Instance) : Handover ω :=
  { s with handed := s.handed ++ [members], receiver := (sink s.receiver members).2 }

/-- A turn takes what waits, and hands the members on if anything did. -/
theorem Current.turned_eq (h : s.Current service) (sink : Sink ω)
    (hlive : s.registry.state.Live s.resolver.watcher service sub) :
    s.turned sink =
      if sub.queue = [] then s.received
      else s.received.pushed sink (s.registry.instances service) := by
  have hlive' := hlive
  rw [← h.service_eq] at hlive'
  rw [turned, Resolver.turn_of_live hlive' h.isRunning h.isKept, Resolver.push, h.service_eq]
  by_cases hqueue : sub.queue = []
  · rw [if_pos hqueue, if_pos hqueue]
    rfl
  · rw [if_neg hqueue, if_neg hqueue]
    rfl

theorem Current.resolved_eq (h : s.Current service) (sink : Sink ω) :
    s.resolved sink = s.pushed sink (s.registry.instances service) := by
  rw [resolved, Resolver.resolveNow, h.isKept, if_neg Bool.false_ne_true, Resolver.push,
    h.service_eq]
  rfl

/-! ## Steps -/

theorem Current.elsewhere (h : s.Current service) (registry : Registry) (receiver : ω)
    {actions : List State.Action}
    (hothers : ∀ action ∈ actions, action.subject? ≠ some s.resolver.watcher)
    (hstate : registry.state = s.registry.state.performAll actions) :
    Current service { s with registry, receiver } := by
  obtain ⟨sub, hlive, hcurrent⟩ := h.current
  obtain ⟨sub', hlive', hqueue⟩ := hlive.performAll hothers
  refine { h with current := ⟨sub', ?_, fun hnil => ?_⟩ }
  · rw [hstate]
    exact hlive'
  -- If nothing waits then, nothing waited before, and the members have the same addresses.
  · obtain ⟨hnil', haddresses⟩ := hqueue hnil
    obtain ⟨last, hlast, hsame⟩ := hcurrent hnil'
    refine ⟨last, hlast, fun a => ?_⟩
    rw [hsame, Registry.instances, Registry.instances, hstate, haddresses]

/-- The members that were handed on last are current, whatever waits. -/
theorem Current.pushed (h : s.Current service) (sink : Sink ω) :
    (s.pushed sink (s.registry.instances service)).Current service := by
  obtain ⟨sub, hlive, _⟩ := h.current
  exact { h with current := ⟨sub, hlive, fun _ => ⟨_, List.getLast?_concat, fun _ => rfl⟩⟩ }

theorem Current.turned (h : s.Current service) (sink : Sink ω) :
    (s.turned sink).Current service := by
  obtain ⟨sub, hlive, hcurrent⟩ := h.current
  have hlive' := live_received hlive
  rw [h.turned_eq sink hlive]
  by_cases hqueue : sub.queue = []
  · rw [if_pos hqueue]
    refine { h with current := ⟨_, hlive', fun _ => ?_⟩ }
    rw [instances_received]
    exact hcurrent hqueue
  · rw [if_neg hqueue]
    refine { h with current := ⟨_, hlive', fun _ => ⟨_, List.getLast?_concat, fun a => ?_⟩⟩ }
    show _ = hasAddress (s.received.registry.instances service) a
    rw [instances_received]

theorem Current.step (h : s.Current service) (hstep : s.Step sink t) : t.Current service := by
  cases hstep with
  | elsewhere registry receiver actions hothers hstate =>
    exact h.elsewhere registry receiver hothers hstate
  | turn => exact h.turned sink
  | resolveNow =>
    rw [h.resolved_eq]
    exact h.pushed sink

theorem Current.run (h : s.Current service) (hrun : Relation.ReflTransGen (Step sink) s t) :
    t.Current service := by
  induction hrun with
  | refl => exact h
  | tail _ hstep ih => exact ih.step hstep

/-! ## Runs from the start -/

/-- Notes change nothing else about a turn. -/
theorem turn_eq_turned (s : Handover ω) (sink : Sink ω) :
    s.resolver.turn s.registry sink s.receiver =
      ((s.turned sink).resolver, (s.turned sink).registry, (s.turned sink).receiver) := by
  unfold turned Resolver.turn
  split
  · rfl
  · split
    · rfl
    · cases s.registry.receive s.resolver.watcher none with
      | none => rfl
      | some q =>
        dsimp only
        split
        · rfl
        · split <;> rfl

theorem resolveNow_eq_resolved (s : Handover ω) (sink : Sink ω) :
    s.resolver.resolveNow s.registry sink s.receiver = (s.resolved sink).receiver := by
  unfold resolved Resolver.resolveNow
  split <;> rfl

theorem waiting_of_live (hlive : s.registry.state.Live s.resolver.watcher service sub) :
    s.waiting = sub.queue := by
  rw [waiting, hlive.found]
  rfl

theorem current_start {registry : Registry} {buffer : Nat} {past : List State.Action}
    (hpast : registry.state = (State.new buffer).performAll past) {id : Nat}
    (hfree : registry.state.subscription? id = none) (service : String) (sink : Sink ω)
    (receiver : ω) :
    ∃ s, start service id registry sink receiver = .ok s ∧ s.Current service ∧
      s.handed = [registry.instances service] := by
  have hlive := State.live_subscribe service (hpast ▸ State.buffer_pos buffer past) hfree
  have hinstances : (registry.watch id service).instances service = registry.instances service := by
    rw [Registry.instances, Registry.state_watch]
    rfl
  let members := (registry.watch id service).instances service
  let first : Handover ω :=
    { resolver := { service, watcher := id }
      registry := registry.watch id service
      handed := [members]
      receiver := (sink receiver members).2 }
  refine ⟨first, rfl, ⟨rfl, rfl, rfl, registry.state.opening id service, ?_, fun _ => ?_⟩, ?_⟩
  · show (registry.watch id service).state.Live id service _
    rw [Registry.state_watch]
    exact hlive
  · exact ⟨members, rfl, fun _ => rfl⟩
  · exact congrArg (fun is => [is]) hinstances

/-- Whatever the registry went through before a resolver starts on it, whatever happens then, and
whatever the receiver answers: the resolver starts and hands on the members, it never stops by
itself, and its subscription is kept. A turn hands on the members as they are at that moment if
anything waits, an explicit push does so always, and both leave the resolver and the members alone.
Whenever nothing waits, the last list that was handed on has the addresses of the members. -/
theorem last_push_current {registry : Registry} {buffer : Nat} {past : List State.Action}
    (hpast : registry.state = (State.new buffer).performAll past) {id : Nat}
    (hfree : registry.state.subscription? id = none) (service : String) (sink : Sink ω)
    (receiver : ω) :
    ∃ first, start service id registry sink receiver = .ok first ∧
      first.handed = [registry.instances service] ∧
      ∀ s, Relation.ReflTransGen (Step sink) first s →
        (s.resolver.isRunning = true ∧
          ∃ sub, s.registry.state.Live s.resolver.watcher service sub) ∧
        (s.waiting = [] → ∃ last, s.handed.getLast? = some last ∧
          addressSet last = addressSet (s.registry.instances service)) ∧
        (let next := s.turned sink
         s.resolver.turn s.registry sink s.receiver =
            (next.resolver, next.registry, next.receiver) ∧
          next.handed =
            s.handed ++ (if s.waiting = [] then [] else [s.registry.instances service]) ∧
          next.resolver = s.resolver ∧
          next.registry.instances service = s.registry.instances service ∧
          next.waiting = []) ∧
        (let next := s.resolved sink
         s.resolver.resolveNow s.registry sink s.receiver = next.receiver ∧
          next.handed = s.handed ++ [s.registry.instances service] ∧
          next.resolver = s.resolver ∧ next.registry = s.registry) := by
  obtain ⟨first, hstart, hcurrent, hhanded⟩ := current_start hpast hfree service sink receiver
  refine ⟨first, hstart, hhanded, fun s hrun => ?_⟩
  have h := hcurrent.run hrun
  obtain ⟨sub, hlive, hlast⟩ := h.current
  refine ⟨⟨h.isRunning, sub, hlive⟩, fun hidle => ?idle, ?turn, ?push⟩
  case idle =>
    rw [waiting_of_live hlive] at hidle
    obtain ⟨last, hlast, hsame⟩ := hlast hidle
    refine ⟨last, hlast, ?_⟩
    ext a
    rw [mem_addressSet, mem_addressSet, hsame]
  case turn =>
    refine ⟨turn_eq_turned s sink, ?_⟩
    have hdrained : s.received.waiting = [] := by
      show ((s.received.registry.state.subscription? s.resolver.watcher).map _).getD [] = []
      rw [(live_received hlive).found]
      exact List.drop_length
    rw [h.turned_eq sink hlive, waiting_of_live hlive]
    by_cases hqueue : sub.queue = []
    · rw [if_pos hqueue, if_pos hqueue, List.append_nil]
      exact ⟨rfl, rfl, instances_received, hdrained⟩
    · rw [if_neg hqueue, if_neg hqueue]
      exact ⟨rfl, rfl, instances_received, hdrained⟩
  case push =>
    refine ⟨resolveNow_eq_resolved s sink, ?_⟩
    rw [h.resolved_eq sink]
    exact ⟨rfl, rfl, rfl⟩

/-- A receiver that refuses every list. -/
def refusal : Sink Unit := fun w _ => (.error .sinkClosed, w)

/-- The receiver refuses every list, one change fits in the queue and four come. -/
theorem last_push_current_refused :
    let registry := Registry.static ((State.new 1).performAll [.commit "users" [⟨"users", "a:1"⟩]])
    let is : List Instance := [⟨"users", "b:1"⟩, ⟨"users", "c:1"⟩, ⟨"users", "d:1"⟩]
    registry.state.subscription? 0 = none ∧
    ∃ first, start "users" 0 registry refusal () = .ok first ∧
      let s : Handover Unit :=
        { first with
          registry := first.registry.withState (first.registry.state.commit "users" is).2 }
      let next := s.turned refusal
      next.waiting = [] ∧ next.resolver.isRunning = true ∧ next.handed.length = 2 ∧
        ∃ last, next.handed.getLast? = some last ∧
          addressSet last = addressSet (next.registry.instances "users") := by
  intro registry is
  have hfree : registry.state.subscription? 0 = none := by decide +kernel
  have hpast : registry.state =
      (State.new 1).performAll [.commit "users" [⟨"users", "a:1"⟩]] := rfl
  obtain ⟨first, hstart, hhanded, hruns⟩ := last_push_current hpast hfree "users" refusal ()
  refine ⟨hfree, first, hstart, ?_⟩
  intro s next
  have hcommit : Relation.ReflTransGen (Step refusal) first s :=
    .single (Step.commit refusal first "users" is)
  have hturned : Relation.ReflTransGen (Step refusal) first next := hcommit.tail .turn
  obtain ⟨_, _, ⟨_, hnext, _, _, hidle⟩, _⟩ := hruns s hcommit
  obtain ⟨⟨hrunning, _⟩, hlast, _⟩ := hruns next hturned
  refine ⟨hidle, hrunning, ?_, hlast hidle⟩
  have hwaiting : s.waiting ≠ [] := by
    obtain rfl := Except.ok.inj hstart
    decide +kernel
  rw [hnext, if_neg hwaiting]
  show (first.handed ++ [_]).length = 2
  rw [hhanded]
  rfl

end Handover

end Roster
