import Roster.Proofs.Registry.Delivery
import Roster.Proofs.Registry.Isolation
import Roster.Proofs.Registry.Moments
import Roster.Proofs.Registry.Reload
import Roster.Proofs.Resolver

/-!
# The contract of subscriptions

Whatever kind a registry is of, its users watch, receive, stop, and drop receivers and handles, and
what the registry does meanwhile comes down to commits (`commits_perform`). A subscription is
therefore the same everywhere (`Kept`), up to one difference: the registry without members gives up
a subscription whose handle is dropped (`IsOver`).
-/

namespace Roster

def Subscription.delisted (sub : Subscription) : Subscription := { sub with isListed := false }

/-! ## Commits -/

namespace State

variable {s : State} {id : Nat} {service : String} {sub : Subscription}

/-- Commits change no handle and no receiver of a subscription, and take it off the list only if its
receiver is gone. -/
theorem Fits.commits (h : s.Fits id service sub) {actions : List Action}
    (hcommits : ∀ action ∈ actions, action.subject? = none) :
    ∃ sub', (s.performAll actions).Fits id service sub' ∧ sub'.isHeard = sub.isHeard ∧
      sub'.isStopped = sub.isStopped ∧ (sub.isHeard = true → sub'.isListed = sub.isListed) := by
  induction actions generalizing s sub with
  | nil => exact ⟨sub, h, rfl, rfl, fun _ => rfl⟩
  | cons action rest ih =>
    obtain ⟨haction, hrest⟩ := List.forall_mem_cons.mp hcommits
    cases action with
    | commit service' is =>
      have hnext : (s.perform (.commit service' is)).Fits id service
          (s.effect (.commit service' is) sub) := h.perform nofun
      obtain ⟨sub', hfits, hheard, hstopped, hlisted⟩ := ih hnext hrest
      rw [effect, Subscription.notify_eq] at hheard hstopped hlisted
      refine ⟨sub', hfits, hheard, hstopped, fun hthere => ?_⟩
      rw [hlisted hthere, hthere]
      simp
    | _ => cases haction

theorem Fits.offered (h : s.Fits id service sub) (hlisted : sub.isListed = true)
    (hheard : sub.isHeard = true) (is : List Instance) :
    (s.commit service is).2.subscription? id =
      some ((s.commit service is).1.foldl Subscription.offer sub) := by
  have hfits : (s.perform (.commit service is)).Fits id service
      (s.effect (.commit service is) sub) := h.perform nofun
  refine hfits.found.trans (congrArg some ?_)
  rw [effect, Subscription.notify, hlisted, h.service_eq, beq_self_eq_true, hheard]
  rfl

end State

namespace FileRegistry

theorem commits_reload (r : FileRegistry) (disk : Disk) :
    ∃ actions, (r.reload disk).2.state = r.state.performAll actions ∧
      ∀ action ∈ actions, action.subject? = none := by
  unfold reload load
  cases Listing.load disk r.path false with
  | error e => exact ⟨[], rfl, nofun⟩
  | ok listing =>
    refine ⟨_, State.commitAll_eq_performAll r.state listing _, fun action hmem => ?_⟩
    obtain ⟨service, _, rfl⟩ := List.mem_map.mp hmem
    rfl

theorem commits_turn (r : FileRegistry) (disk : Disk) :
    ∃ actions, (r.turn disk).state = r.state.performAll actions ∧
      ∀ action ∈ actions, action.subject? = none := by
  unfold turn
  split
  · exact ⟨[], rfl, nofun⟩
  · next n _ => exact commits_reload { r with notices := n } disk

end FileRegistry

namespace PollingRegistry

theorem commits_perform (r : PollingRegistry) {m : Action} (hm : m.isSingle = true)
    (huser : m.byUser? = none) :
    ∃ actions, (r.perform m).state = r.state.performAll actions ∧
      ∀ action ∈ actions, action.subject? = none := by
  refine ⟨_, r.state_perform hm, fun action hmem => ?_⟩
  rw [onState?, huser, Option.or_none, Option.mem_toList] at hmem
  obtain ⟨e, _, hcommit⟩ := Option.bind_eq_some_iff.mp hmem
  obtain ⟨entries, _, rfl⟩ := Option.map_eq_some_iff.mp hcommit
  rfl

end PollingRegistry

namespace Registry

/-! ## Actions -/

/-- What users do with what a registry gives out, and what registries of some kinds do meanwhile. -/
inductive Action where
  | watch (id : Nat) (service : String)
  | receive (id : Nat) (limit : Option Nat)
  | stop (id : Nat)
  | dropReceiver (id : Nat)
  | dropHandle (id : Nat)
  | reload (disk : Disk)
  | notice (name : String)
  | turn (disk : Disk)
  | beginRefresh (service : String)
  | step (task : Nat) (choice : StepChoice)
  | pass (ms : Nat)

/-- What happens to a registry if its members stand in a document. -/
def onFile (r : Registry) (f : FileRegistry → FileRegistry) : Registry :=
  match r with
  | file x => .file (f x)
  | _ => r

def onPolling (r : Registry) (f : PollingRegistry → PollingRegistry) : Registry :=
  match r with
  | polling x => .polling (f x)
  | _ => r

/-- The registry after an action. What only other kinds of registries do changes nothing. -/
def perform (r : Registry) : Action → Registry
  | .watch id service => r.watch id service
  | .receive id limit => ((r.receive id limit).map (·.2)).getD r
  | .stop id => r.stop id
  | .dropReceiver id => r.dropReceiver id
  | .dropHandle id => r.dropHandle id
  | .reload disk => r.onFile fun f => (f.reload disk).2
  | .notice name => r.onFile (·.notice name)
  | .turn disk => r.onFile (·.turn disk)
  | .beginRefresh service => r.onPolling (·.perform (.beginRefresh service))
  | .step task choice => r.onPolling (·.perform (.step task choice))
  | .pass ms => r.onPolling (·.perform (.pass ms))

def performAll (r : Registry) (actions : List Action) : Registry := actions.foldl perform r

def Action.given? : Action → Option Nat
  | .watch id _ => some id
  | _ => none

/-- What the user of an action does to members and subscriptions, unless a handle is dropped. -/
def Action.byUser? : Action → Option State.Action
  | .watch id service => some (.subscribe id service)
  | .receive id limit => some (.receive id limit)
  | .stop id => some (.stop id)
  | .dropReceiver id => some (.dropReceiver id)
  | _ => none

def Action.isInner : Action → Bool
  | .reload _ | .notice _ | .turn _ | .beginRefresh _ | .step _ _ | .pass _ => true
  | _ => false

/-- Whether a registry holds on to a subscription only through its handle. -/
def holdsByHandle : Registry → Bool
  | noop _ => true
  | _ => false

variable {r : Registry} {id : Nat} {service : String} {sub sub' : Subscription}
  {past : List Action} {action : Action}

theorem state_stop (r : Registry) (id : Nat) : (r.stop id).state = (r.state.stop id).2 := by
  cases r with
  | polling p => exact p.state_stop id
  | _ => rfl

theorem state_dropReceiver (r : Registry) (id : Nat) :
    (r.dropReceiver id).state = r.state.dropReceiver id :=
  state_withState r _

theorem holdsByHandle_withState (r : Registry) (s : State) :
    (r.withState s).holdsByHandle = r.holdsByHandle := by
  cases r <;> rfl

theorem holdsByHandle_perform (r : Registry) (action : Action) :
    (r.perform action).holdsByHandle = r.holdsByHandle := by
  cases action with
  | receive id limit =>
    show (((r.receive id limit).map (·.2)).getD r).holdsByHandle = _
    rw [receive]
    cases r.state.receive id limit with
    | none => rfl
    | some q => exact holdsByHandle_withState r q.2
  | _ => cases r <;> rfl

theorem state_perform_of_byUser? {a : State.Action} (h : action.byUser? = some a) :
    (r.perform action).state = r.state.perform a := by
  cases action with
  | watch id service =>
    cases h
    exact state_watch r id service
  | receive id limit =>
    cases h
    show (((r.receive id limit).map (·.2)).getD r).state = _
    rw [receive, State.perform]
    cases r.state.receive id limit with
    | none => rfl
    | some q => exact state_withState r q.2
  | stop id =>
    cases h
    exact state_stop r id
  | dropReceiver id =>
    cases h
    exact state_dropReceiver r id
  | _ => cases h

/-- What a registry does by itself comes down to commits. -/
theorem commits_perform (h : action.isInner = true) :
    ∃ actions, (r.perform action).state = r.state.performAll actions ∧
      ∀ a ∈ actions, a.subject? = none := by
  -- Registries of other kinds stay as they are.
  have hstays : ∃ actions, r.state = r.state.performAll actions ∧
      ∀ a ∈ actions, a.subject? = none := ⟨[], rfl, nofun⟩
  cases action with
  | reload disk =>
    cases r with
    | file f => exact f.commits_reload disk
    | _ => exact hstays
  | notice name =>
    cases r with
    | file f =>
      refine ⟨[], ?_, nofun⟩
      show (f.notice name).state = f.state
      unfold FileRegistry.notice
      split <;> rfl
    | _ => exact hstays
  | turn disk =>
    cases r with
    | file f => exact f.commits_turn disk
    | _ => exact hstays
  | beginRefresh service =>
    cases r with
    | polling p => exact p.commits_perform rfl rfl
    | _ => exact hstays
  | step task choice =>
    cases r with
    | polling p => exact p.commits_perform rfl rfl
    | _ => exact hstays
  | pass ms =>
    cases r with
    | polling p => exact p.commits_perform rfl rfl
    | _ => exact hstays
  | _ => cases h

/-! ## One subscription -/

/-- Whether a subscription is over after some actions: it was stopped, or its handle was dropped and
the registry holds on to it only through the handle. -/
def IsOver (r : Registry) (id : Nat) (past : List Action) : Prop :=
  .stop id ∈ past ∨ r.holdsByHandle = true ∧ .dropHandle id ∈ past

/-- The subscription of a number to a service, as actions left it since it was made. What is said of
the list holds while the receiver is there. -/
structure Kept (r : Registry) (id : Nat) (service : String) (past : List Action)
    (sub : Subscription) : Prop where
  fits : r.state.Fits id service sub
  isHeard_iff : sub.isHeard = true ↔ .dropReceiver id ∉ past
  isStopped_iff : sub.isStopped = true ↔ .stop id ∈ past
  isListed_iff : sub.isHeard = true → (sub.isListed = true ↔ ¬ r.IsOver id past)

theorem isOver_concat {next : Registry} (hkind : next.holdsByHandle = r.holdsByHandle) :
    next.IsOver id (past ++ [action]) ↔
      r.IsOver id past ∨ .stop id = action ∨ r.holdsByHandle = true ∧ .dropHandle id = action := by
  simp only [IsOver, hkind, List.mem_append, List.mem_singleton]
  constructor
  · rintro ((hpast | hnow) | ⟨hholds, hpast | hnow⟩)
    · exact .inl (.inl hpast)
    · exact .inr (.inl hnow)
    · exact .inl (.inr ⟨hholds, hpast⟩)
    · exact .inr (.inr ⟨hholds, hnow⟩)
  · rintro ((hpast | ⟨hholds, hpast⟩) | hnow | ⟨hholds, hnow⟩)
    · exact .inl (.inl hpast)
    · exact .inr ⟨hholds, .inl hpast⟩
    · exact .inl (.inr hnow)
    · exact .inr ⟨hholds, .inr hnow⟩

/-- An action that neither stops the subscription nor drops its receiver or a handle that it needs
leaves it as it is, but for its queue. -/
theorem Kept.same (h : r.Kept id service past sub)
    (hfits : (r.perform action).state.Fits id service sub') (hheard : sub'.isHeard = sub.isHeard)
    (hstopped : sub'.isStopped = sub.isStopped)
    (hlisted : sub.isHeard = true → sub'.isListed = sub.isListed)
    (hreceiver : .dropReceiver id ≠ action) (hstop : .stop id ≠ action)
    (hhandle : r.holdsByHandle = true → .dropHandle id ≠ action) :
    (r.perform action).Kept id service (past ++ [action]) sub' where
  fits := hfits
  isHeard_iff := by simp [hheard, h.isHeard_iff, hreceiver]
  isStopped_iff := by simp [hstopped, h.isStopped_iff, hstop]
  isListed_iff := by
    intro hthere
    rw [hheard] at hthere
    rw [hlisted hthere, h.isListed_iff hthere, isOver_concat (holdsByHandle_perform r action)]
    refine not_congr ⟨.inl, ?_⟩
    rintro (hover | hnow | ⟨hholds, hnow⟩)
    · exact hover
    · exact absurd hnow hstop
    · exact absurd hnow (hhandle hholds)

/-- What is done to members and subscriptions shows its effect on a subscription that is there. -/
theorem Kept.fits_perform (h : r.Kept id service past sub) (action : Action) {a : State.Action}
    (ha : action.byUser? = some a) (hid : a.given? ≠ some id) :
    (r.perform action).state.Fits id service (r.state.effect a sub) := by
  rw [state_perform_of_byUser? ha]
  exact h.fits.perform hid

theorem Kept.stop (h : r.Kept id service past sub) :
    (r.perform (.stop id)).Kept id service (past ++ [.stop id]) sub.stopped := by
  have hfits := h.fits_perform (.stop id) rfl nofun
  have heffect : r.state.effect (.stop id) sub = sub.stopped :=
    if_pos (State.id_of_subscription? h.fits.found)
  rw [heffect] at hfits
  refine ⟨hfits, ?_, ?_, fun _ => ?_⟩
  · rw [show sub.stopped.isHeard = sub.isHeard from rfl, h.isHeard_iff]
    simp
  · exact ⟨fun _ => List.mem_append_right _ (List.mem_singleton_self _), fun _ => rfl⟩
  · rw [hfits.ended rfl, isOver_concat (holdsByHandle_perform r _)]
    exact ⟨nofun, fun hnot => absurd (.inr (.inl rfl)) hnot⟩

theorem Kept.dropReceiver (h : r.Kept id service past sub) :
    (r.perform (.dropReceiver id)).Kept id service (past ++ [.dropReceiver id]) sub.unheard := by
  have hfits := h.fits_perform (.dropReceiver id) rfl nofun
  have heffect : r.state.effect (.dropReceiver id) sub = sub.unheard :=
    if_pos (State.id_of_subscription? h.fits.found)
  rw [heffect] at hfits
  refine ⟨hfits, ⟨nofun, fun hnot => ?_⟩, ?_, nofun⟩
  · exact absurd (List.mem_append_right _ (List.mem_singleton_self _)) hnot
  · rw [show sub.unheard.isStopped = sub.isStopped from rfl, h.isStopped_iff]
    simp

/-- To drop the handle of a subscription that is not held by its handle is to do nothing. -/
theorem dropHandle_eq_self (h : r.holdsByHandle = false) (id : Nat) : r.dropHandle id = r := by
  cases r with
  | noop s => cases h
  | _ => rfl

theorem state_dropHandle (h : r.holdsByHandle = true) (id : Nat) :
    (r.dropHandle id).state = r.state.alter id Subscription.delisted := by
  cases r with
  | noop s => rfl
  | _ => cases h

theorem Kept.dropHandle (h : r.Kept id service past sub) (id' : Nat) :
    ∃ sub', (r.perform (.dropHandle id')).Kept id service (past ++ [.dropHandle id']) sub' := by
  cases hholds : r.holdsByHandle with
  | false =>
    have hsame : r.perform (.dropHandle id') = r := dropHandle_eq_self hholds id'
    have hfits : (r.perform (.dropHandle id')).state.Fits id service sub := by
      rw [hsame]
      exact h.fits
    exact ⟨sub, h.same hfits rfl rfl (fun _ => rfl) nofun nofun fun htrue => by
      rw [hholds] at htrue
      cases htrue⟩
  | true =>
    have hself : sub.id = id := State.id_of_subscription? h.fits.found
    have hfound : (r.perform (.dropHandle id')).state.subscription? id =
        some (if sub.id = id' then sub.delisted else sub) := by
      show (r.dropHandle id').state.subscription? id = _
      rw [state_dropHandle hholds, State.subscription?_alter, h.fits.found, Option.map_some]
      exact fun _ => rfl
    by_cases hown : sub.id = id'
    · rw [if_pos hown] at hfound
      refine ⟨_, ⟨hfound, h.fits.service_eq, h.fits.le_capacity, fun _ => rfl⟩, ?_, ?_, fun _ => ?_⟩
      · rw [show sub.delisted.isHeard = sub.isHeard from rfl, h.isHeard_iff]
        simp
      · rw [show sub.delisted.isStopped = sub.isStopped from rfl, h.isStopped_iff]
        simp
      · rw [isOver_concat (holdsByHandle_perform r _)]
        refine ⟨nofun, fun hnot => absurd (.inr (.inr ⟨hholds, ?_⟩)) hnot⟩
        rw [← hown, hself]
    · rw [if_neg hown] at hfound
      refine ⟨sub, h.same ⟨hfound, h.fits.service_eq, h.fits.le_capacity, h.fits.ended⟩ rfl rfl
        (fun _ => rfl) nofun nofun ?_⟩
      rintro _ heq
      cases heq
      exact hown hself

theorem Kept.perform (h : r.Kept id service past sub) (hid : action.given? ≠ some id) :
    ∃ sub', (r.perform action).Kept id service (past ++ [action]) sub' := by
  have hself : sub.id = id := State.id_of_subscription? h.fits.found
  cases hinner : action.isInner with
  | true =>
    obtain ⟨actions, hstate, hcommits⟩ := commits_perform (r := r) hinner
    obtain ⟨sub', hfits, hheard, hstopped, hlisted⟩ := h.fits.commits hcommits
    rw [← hstate] at hfits
    refine ⟨sub', h.same hfits hheard hstopped hlisted ?_ ?_ fun _ => ?_⟩ <;> rintro rfl <;>
      cases hinner
  | false =>
    cases action with
    | watch id' service' =>
      have hfits := h.fits_perform (.watch id' service') rfl hid
      exact ⟨sub, h.same hfits rfl rfl (fun _ => rfl) nofun nofun nofun⟩
    | receive id' limit =>
      have hfits := h.fits_perform (.receive id' limit) rfl nofun
      by_cases hown : sub.id = id'
      · have heffect : r.state.effect (.receive id' limit) sub = sub.drained limit := if_pos hown
        rw [heffect] at hfits
        exact ⟨sub.drained limit, h.same hfits rfl rfl (fun _ => rfl) nofun nofun nofun⟩
      · have heffect : r.state.effect (.receive id' limit) sub = sub := if_neg hown
        rw [heffect] at hfits
        exact ⟨sub, h.same hfits rfl rfl (fun _ => rfl) nofun nofun nofun⟩
    | stop id' =>
      by_cases hown : id = id'
      · exact hown ▸ ⟨_, h.stop⟩
      · have hfits := h.fits_perform (.stop id') rfl nofun
        have heffect : r.state.effect (.stop id') sub = sub := if_neg (hself ▸ hown)
        rw [heffect] at hfits
        exact ⟨sub, h.same hfits rfl rfl (fun _ => rfl) nofun (by simpa using hown) nofun⟩
    | dropReceiver id' =>
      by_cases hown : id = id'
      · exact hown ▸ ⟨_, h.dropReceiver⟩
      · have hfits := h.fits_perform (.dropReceiver id') rfl nofun
        have heffect : r.state.effect (.dropReceiver id') sub = sub := if_neg (hself ▸ hown)
        rw [heffect] at hfits
        exact ⟨sub, h.same hfits rfl rfl (fun _ => rfl) (by simpa using hown) nofun nofun⟩
    | dropHandle id' => exact h.dropHandle id'
    | _ => cases hinner

theorem Kept.performAll (h : r.Kept id service past sub) {actions : List Action}
    (hid : ∀ action ∈ actions, action.given? ≠ some id) :
    ∃ sub', (r.performAll actions).Kept id service (past ++ actions) sub' := by
  induction actions generalizing r past sub with
  | nil => exact ⟨sub, by rwa [List.append_nil]⟩
  | cons action rest ih =>
    obtain ⟨haction, hrest⟩ := List.forall_mem_cons.mp hid
    obtain ⟨next, hnext⟩ := h.perform haction
    obtain ⟨sub', h'⟩ := ih hnext hrest
    exact ⟨sub', by rwa [List.append_assoc, List.singleton_append] at h'⟩

theorem holdsByHandle_performAll (r : Registry) (actions : List Action) :
    (r.performAll actions).holdsByHandle = r.holdsByHandle := by
  induction actions generalizing r with
  | nil => rfl
  | cons action rest ih => exact (ih (r.perform action)).trans (holdsByHandle_perform r action)

theorem kept_watch (hfree : r.state.subscription? id = none) (service : String) :
    (r.watch id service).Kept id service [] (r.state.opening id service) where
  fits := by
    rw [state_watch]
    exact State.fits_subscribe service hfree
  isHeard_iff := ⟨fun _ => List.not_mem_nil, fun _ => rfl⟩
  isStopped_iff := ⟨nofun, nofun⟩
  isListed_iff := fun _ => by simp [IsOver, State.opening]

/-! ## Receivers and handles -/

theorem receive_of_found (hfound : r.state.subscription? id = some sub) (limit : Option Nat) :
    ∃ receipt next, r.receive id limit = some (receipt, next) ∧
      receipt.changes = sub.queue.take (limit.getD sub.queue.length) ∧
      (receipt.status = .isClosed ↔
        sub.isListed = false ∧ ∀ n, limit = some n → sub.queue.length < n) := by
  rw [receive, State.receive, hfound]
  refine ⟨_, _, rfl, rfl, ?_⟩
  dsimp only
  cases limit with
  | none => cases sub.isListed <;> simp
  | some n =>
    by_cases hmore : n ≤ sub.queue.length
    · simp [Nat.min_eq_left hmore, Nat.not_lt.mpr hmore]
    · have hless : sub.queue.length < n := by omega
      have hne : n ≠ min n sub.queue.length := by omega
      cases sub.isListed <;> simp [hless, hne]

theorem map_fst_receive (r : Registry) (id : Nat) (limit : Option Nat) :
    (r.receive id limit).map (·.1) = (r.state.receive id limit).map (·.1) :=
  Option.map_map ..

theorem stop_of_isStopped (h : r.isStopped id = true) : r.stop id = r := by
  obtain ⟨sub, hfound, hstopped⟩ := (Option.any_eq_true ..).mp h
  have hstop : r.state.stop id = (none, r.state) := by
    rw [State.stop, hfound]
    exact if_pos hstopped
  cases r with
  | polling p =>
    refine congrArg polling ?_
    show p.stop id = p
    rw [PollingRegistry.stop, show p.state.subscription? id = some sub from hfound,
      show p.state.stop id = (none, p.state) from hstop]
  | static s => exact congrArg (withState (.static s) ·.2) hstop
  | noop s => exact congrArg (withState (.noop s) ·.2) hstop
  | file f => exact congrArg (withState (.file f) ·.2) hstop

/-! ## The contract -/

/-- Whatever is done to a registry of any kind, and whatever it does by itself, before and after a
subscription to a service under a new number. At first the arrivals of the present members wait, in
their order, and no other subscription changed. As long as the receiver is there, it takes what
waits for it, and is told that its queue is closed exactly if the subscription is over, all that
waits was taken, and more was asked for; a commit to the service is offered to a subscription that
is not over, and a stop leaves what waits, and nothing more. A subscription is over once it was
stopped, or once its handle was dropped if the registry has no members; to drop a handle of another
registry does nothing. The handle knows whether it was used to stop the subscription. The first stop
ends this subscription and no other, and any further one does nothing. -/
theorem contract_exact (hfree : r.state.subscription? id = none) (service : String)
    {later : List Action} (hid : ∀ action ∈ later, action.given? ≠ some id) :
    let opened := r.watch id service
    let now := opened.performAll later
    let stopped := now.stop id
    ((opened.receive id none).map (·.1) =
        some ⟨(r.instances service).map Change.joined, .isOpen⟩ ∧
      opened.state.without id = r.state.without id) ∧
    ∃ sub, now.state.subscription? id = some sub ∧
      (.dropReceiver id ∉ later →
        (∀ limit, ∃ receipt next, now.receive id limit = some (receipt, next) ∧
          receipt.changes = sub.queue.take (limit.getD sub.queue.length) ∧
          (receipt.status = .isClosed ↔
            r.IsOver id later ∧ ∀ n, limit = some n → sub.queue.length < n)) ∧
        (¬ r.IsOver id later → ∀ is,
          (now.state.commit service is).2.subscription? id =
            some ((now.state.commit service is).1.foldl Subscription.offer sub)) ∧
        (stopped.receive id none).map (·.1) = some ⟨sub.queue, .isClosed⟩) ∧
      (r.holdsByHandle = false → now.dropHandle id = now) ∧
      (now.dropHandle id).state.without id = now.state.without id ∧
      (now.isStopped id = true ↔ .stop id ∈ later) ∧
      (.stop id ∈ later → stopped = now) ∧
      stopped.isStopped id = true ∧
      stopped.state.without id = now.state.without id := by
  intro opened now stopped
  have hkind : now.holdsByHandle = r.holdsByHandle := by
    rw [holdsByHandle_performAll]
    exact holdsByHandle_perform r (.watch id service)
  have hopened : opened.Kept id service [] (r.state.opening id service) := kept_watch hfree service
  obtain ⟨sub, hnow⟩ := hopened.performAll hid
  replace hnow : now.Kept id service later sub := hnow
  have hstopped : stopped.Kept id service (later ++ [.stop id]) sub.stopped := hnow.stop
  have hover : now.IsOver id later ↔ r.IsOver id later := by rw [IsOver, IsOver, hkind]
  have hisStopped : now.isStopped id = true ↔ .stop id ∈ later := by
    rw [isStopped, State.isStopped, hnow.fits.found]
    exact hnow.isStopped_iff
  have hlisted (hthere : .dropReceiver id ∉ later) : sub.isListed = true ↔ ¬ r.IsOver id later := by
    rw [hnow.isListed_iff (hnow.isHeard_iff.mpr hthere), hover]
  refine ⟨⟨?replay, ?alone⟩, sub, hnow.fits.found,
    fun hthere => ⟨fun limit => ?told, ?offered, ?rest⟩,
    fun hholds => dropHandle_eq_self (hkind.trans hholds) id, ?others, hisStopped,
    fun hmem => stop_of_isStopped (hisStopped.mpr hmem), ?used, ?own⟩
  case replay =>
    rw [map_fst_receive, State.receive, hopened.fits.found]
    simp [State.opening, instances]
  case alone =>
    show (r.watch id service).state.without id = _
    have hown : (State.Action.subscribe id service).subject? = some id := rfl
    rw [state_watch]
    exact State.without_perform_self hown
  case told =>
    obtain ⟨receipt, next, hreceive, hchanges, hclosed⟩ := receive_of_found hnow.fits.found limit
    refine ⟨receipt, next, hreceive, hchanges, ?_⟩
    rw [hclosed, ← Bool.not_eq_true, hlisted hthere, Classical.not_not]
  case offered =>
    intro hnot is
    exact hnow.fits.offered ((hlisted hthere).mpr hnot) (hnow.isHeard_iff.mpr hthere) is
  case rest =>
    rw [map_fst_receive]
    exact hstopped.fits.receive_of_unlisted (hstopped.fits.ended rfl)
  case others =>
    cases hholds : now.holdsByHandle with
    | false => rw [dropHandle_eq_self hholds]
    | true =>
      rw [state_dropHandle hholds]
      exact State.without_alter_self fun _ => rfl
  case used =>
    rw [isStopped, State.isStopped, hstopped.fits.found]
    rfl
  case own =>
    show (now.stop id).state.without id = _
    have hown : (State.Action.stop id).subject? = some id := rfl
    rw [state_stop]
    exact State.without_perform_self hown

/-- The handle of one subscription is dropped, and another subscription to the same service is
stopped twice. The first one goes on, and closes when it is stopped. -/
theorem contract_exact_two_watchers :
    let r := Registry.static ((State.new 4).performAll [.commit "users" [⟨"users", "a:1"⟩]])
    let later : List Action := [.dropHandle 0, .watch 1 "users", .stop 1, .stop 1]
    let now := (r.watch 0 "users").performAll later
    r.state.subscription? 0 = none ∧ (∀ action ∈ later, action.given? ≠ some 0) ∧
      (∃ receipt next, now.receive 0 none = some (receipt, next) ∧
        receipt.changes = [.joined ⟨"users", "a:1"⟩] ∧ receipt.status ≠ .isClosed) ∧
      now.isStopped 0 = false ∧ (now.stop 0).isStopped 0 = true ∧
      ((now.stop 0).receive 0 none).map (·.1) =
        some ⟨[.joined ⟨"users", "a:1"⟩], .isClosed⟩ := by
  intro r later now
  have hfree : r.state.subscription? 0 = none := by decide +kernel
  have hid : ∀ action ∈ later, action.given? ≠ some 0 := by
    simp [later, Action.given?]
  have hnot : ¬ r.IsOver 0 later := by simp [later, r, IsOver, holdsByHandle]
  obtain ⟨_, sub, hfound, hreceiver, _, _, hstopped, _, hused, _⟩ :=
    contract_exact hfree "users" hid
  obtain ⟨htold, _, hrest⟩ := hreceiver (by simp [later])
  obtain ⟨receipt, next, hreceive, hchanges, hclosed⟩ := htold none
  have hqueue : sub.queue = [.joined ⟨"users", "a:1"⟩] := by
    have hsome : (now.state.subscription? 0).map (·.queue) =
        some [.joined ⟨"users", "a:1"⟩] := by decide +kernel
    rw [hfound] at hsome
    exact Option.some.inj hsome
  rw [hqueue] at hchanges hrest
  refine ⟨hfree, hid, ⟨receipt, next, hreceive, hchanges, ?_⟩, ?_, hused, hrest⟩
  · rw [Ne, hclosed]
    exact fun hover => hnot hover.1
  · rw [← Bool.not_eq_true, hstopped]
    simp [later]

/-- The registry without members closes a queue whose handle was dropped, though it was not stopped.
-/
theorem dropped_handle_closes :
    let opened := empty.watch 0 "users"
    let dropped := opened.dropHandle 0
    (opened.receive 0 none).map (·.1) = some ⟨[], .isOpen⟩ ∧
      dropped.isStopped 0 = false ∧ (dropped.receive 0 none).map (·.1) = some ⟨[], .isClosed⟩ := by
  decide +kernel

end Registry

end Roster
