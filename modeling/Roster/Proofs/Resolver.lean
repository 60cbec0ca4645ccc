import Roster.Proofs.Difference
import Roster.Proofs.Registry.History
import Roster.Resolver

/-!
# The subscription of a resolver

A resolver takes no notice of what changes say, only of whether there are any. That is enough
because its subscription is `Live`: whatever else happens to the registry, if nothing waits for the
resolver, nothing did before, and the members have the same addresses as then (`Live.performAll`).
A turn takes everything that waits, and hands the members on if there was anything
(`turn_of_live`).
-/

namespace Roster

namespace State

/-! ## A subscription that is kept -/

/-- The subscription of a number is to a service, listed, and heard, and has room for a change. -/
structure Live (s : State) (id : Nat) (service : String) (sub : Subscription) : Prop where
  found : s.subscription? id = some sub
  service_eq : sub.service = service
  isListed : sub.isListed = true
  isHeard : sub.isHeard = true
  capacity_pos : 0 < sub.capacity

variable {s : State} {id : Nat} {service : String} {sub : Subscription}

theorem Live.commit (h : s.Live id service sub) (service' : String) (is : List Instance) :
    ∃ sub', (s.perform (.commit service' is)).Live id service sub' ∧
      (sub'.queue = [] →
        sub.queue = [] ∧ (service' = service → (s.commit service' is).1 = [])) := by
  obtain ⟨hfound, hservice, hlisted, hheard, hcapacity⟩ := h
  have heffect := Subscription.notify_eq service' (s.commit service' is).1 sub
  refine ⟨sub.notify service' (s.commit service' is).1, ⟨?_, ?_, ?_, ?_, ?_⟩, fun hqueue => ?_⟩
  · rw [subscription?_perform, hfound]
    rfl
  · rw [heffect, ← hservice]
  · rw [heffect, hlisted, hheard]
    rfl
  · rw [heffect, ← hheard]
  · rw [heffect]
    exact hcapacity
  · rw [heffect] at hqueue
    by_cases hto : service' = service
    · subst hto
      rw [Subscription.isTo, hlisted, hservice, hheard, beq_self_eq_true] at hqueue
      have hnil : (s.commit service' is).1 = [] := Decidable.not_not.mp fun hne =>
        Subscription.queue_foldl_offer_ne_nil hne hcapacity hqueue
      rw [hnil] at hqueue
      exact ⟨hqueue, fun _ => hnil⟩
    · have hother : sub.isTo service' = false := by
        rw [Subscription.isTo, hservice, hlisted, Bool.true_and, beq_eq_false_iff_ne]
        exact Ne.symm hto
      rw [hother] at hqueue
      exact ⟨hqueue, fun hto' => absurd hto' hto⟩

/-- What is done about other subscriptions, or about none, keeps a live subscription. If nothing
waits afterwards, nothing did before, and the members have the same addresses. -/
theorem Live.perform (h : s.Live id service sub) {action : Action}
    (hothers : action.subject? ≠ some id) :
    ∃ sub', (s.perform action).Live id service sub' ∧
      (sub'.queue = [] → sub.queue = [] ∧
        ∀ a, hasAddress ((s.perform action).instances service) a =
          hasAddress (s.instances service) a) := by
  cases hcommit : action with
  | commit service' is =>
    obtain ⟨sub', hlive, hqueue⟩ := h.commit service' is
    refine ⟨sub', hlive, fun hnil => ⟨(hqueue hnil).1, fun a => ?_⟩⟩
    rw [instances_perform]
    dsimp only
    split
    · next hto =>
      have hchanges := (hqueue hnil).2 hto
      subst hto
      exact (hasAddress_eq_of_difference_eq_nil hchanges a).symm
    · rfl
  | _ =>
    subst hcommit
    refine ⟨sub, { h with found := ?_ }, fun hnil => ⟨hnil, fun a => by rw [instances_perform]⟩⟩
    rw [subscription?_perform_of_ne (Action.given?_ne hothers), h.found, Option.map_some,
      effect_eq_of_subject?_ne (by rwa [id_of_subscription? h.found])]

theorem Live.performAll (h : s.Live id service sub) {actions : List Action}
    (hothers : ∀ action ∈ actions, action.subject? ≠ some id) :
    ∃ sub', (s.performAll actions).Live id service sub' ∧
      (sub'.queue = [] → sub.queue = [] ∧
        ∀ a, hasAddress ((s.performAll actions).instances service) a =
          hasAddress (s.instances service) a) := by
  induction actions generalizing s sub with
  | nil => exact ⟨sub, h, fun hnil => ⟨hnil, fun _ => rfl⟩⟩
  | cons action rest ih =>
    obtain ⟨haction, hrest⟩ := List.forall_mem_cons.mp hothers
    obtain ⟨mid, hmid, hmidqueue⟩ := h.perform haction
    obtain ⟨last, hlast, hlastqueue⟩ := ih hmid hrest
    refine ⟨last, hlast, fun hnil => ?_⟩
    obtain ⟨hnil', haddresses⟩ := hlastqueue hnil
    obtain ⟨hnil'', haddresses'⟩ := hmidqueue hnil'
    exact ⟨hnil'', fun a => (haddresses a).trans (haddresses' a)⟩

theorem Live.receive (h : s.Live id service sub) :
    (s.perform (.receive id none)).Live id service (sub.drained none) := by
  refine ⟨?_, h.service_eq, h.isListed, h.isHeard, h.capacity_pos⟩
  rw [subscription?_perform, h.found]
  exact congrArg some (if_pos (id_of_subscription? h.found))

theorem live_subscribe (service : String) (hbuffer : 0 < s.buffer)
    (hfree : s.subscription? id = none) :
    (s.subscribe id service).Live id service (s.opening id service) := by
  refine ⟨?_, rfl, rfl, rfl, Nat.lt_of_lt_of_le hbuffer (Nat.le_max_left _ _)⟩
  rw [subscription?_subscribe, hfree, if_pos rfl]
  rfl

theorem buffer_pos (buffer : Nat) (past : List Action) :
    0 < ((new buffer).performAll past).buffer := by
  rw [buffer_performAll]
  exact Nat.le_max_right buffer 1

end State

/-! ## Registries -/

namespace Registry

@[simp] theorem state_withState (r : Registry) (s : State) : (r.withState s).state = s := by
  cases r <;> rfl

theorem state_watch (r : Registry) (id : Nat) (service : String) :
    (r.watch id service).state = r.state.subscribe id service := by
  cases r with
  | polling p =>
    show ({ p with state := p.state.subscribe id service }.ensurePoller service).state = _
    unfold PollingRegistry.ensurePoller
    split <;> rfl
  | _ => rfl

/-- The search for the next number never comes down, and goes above every number it sees. -/
theorem le_foldl_id (subs : List Subscription) (n : Nat) :
    n ≤ subs.foldl (fun n sub => max n (sub.id + 1)) n ∧
      ∀ sub ∈ subs, sub.id < subs.foldl (fun n sub => max n (sub.id + 1)) n := by
  induction subs generalizing n with
  | nil => exact ⟨Nat.le_refl n, nofun⟩
  | cons first rest ih =>
    obtain ⟨hle, hlt⟩ := ih (max n (first.id + 1))
    rw [List.foldl_cons]
    refine ⟨by omega, fun sub hsub => ?_⟩
    rcases List.mem_cons.mp hsub with rfl | hsub
    · omega
    · exact hlt sub hsub

theorem subscription?_nextId (r : Registry) : r.state.subscription? r.nextId = none := by
  refine List.find?_eq_none.mpr fun sub hsub => ?_
  rw [beq_iff_eq]
  exact Nat.ne_of_lt ((le_foldl_id r.state.subscriptions 0).2 sub hsub)

end Registry

/-! ## Turns -/

namespace Resolver

variable {ω : Type}

/-- A turn of a running resolver takes all that waits, and hands the members on if there was
anything. -/
theorem turn_of_live {r : Resolver} {registry : Registry} {sub : Subscription}
    (hlive : registry.state.Live r.watcher r.service sub) (hrunning : r.isRunning = true)
    (hclosed : r.isClosed = false) (sink : Sink ω) (w : ω) :
    r.turn registry sink w =
      (r, registry.withState (registry.state.perform (.receive r.watcher none)),
        if sub.queue = [] then w else r.push registry sink w) := by
  have hreceive : registry.receive r.watcher none =
      some (⟨sub.queue, .isOpen⟩,
        registry.withState (registry.state.perform (.receive r.watcher none))) := by
    rw [Registry.receive, State.perform, State.receive, hlive.found]
    simp [hlive.isListed]
  have hinstances : (registry.withState
      (registry.state.perform (.receive r.watcher none))).instances r.service =
        registry.instances r.service := by
    rw [Registry.instances, Registry.state_withState, State.instances_perform]
    rfl
  unfold turn
  rw [hrunning, hclosed, hreceive]
  cases hqueue : sub.queue with
  | nil => rfl
  | cons c rest =>
    show (r, _, r.push _ sink w) = _
    rw [push, hinstances]
    rfl

end Resolver

end Roster
