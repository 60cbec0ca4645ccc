import Roster.Proofs.Registry.Accounts
import Roster.Proofs.Registry.LastStop

/-!
# Subscriptions that are wanted

A subscription is wanted as long as its receiver is there and its handle was not used to stop it
(`State.isWanted`). The list may hold more, because a receiver that is gone is noticed only when
there are changes to offer, but never less. This is `State.Orderly`, which holds along every run of
a registry that polls in which no number is given twice (`orderly_performAll`). A commit with
changes leaves a service without watchers if none of its subscriptions is wanted
(`State.Orderly.watcherCount_commit`).
-/

namespace Roster

namespace State

variable {s : State} {action : Action} {service : String} {sub : Subscription}

/-! ## Subscriptions that are wanted -/

/-- Whether the receiver of some subscription to a service is there, and its handle was not used to
stop it. -/
def isWanted (s : State) (service : String) : Bool :=
  s.subscriptions.any fun sub => sub.service == service && sub.isHeard && !sub.isStopped

/-- Numbers are given once, what was stopped is not listed, and what is wanted is. -/
structure Orderly (s : State) : Prop where
  numbered : s.IsNumbered
  unlisted : ∀ sub ∈ s.subscriptions, sub.isStopped = true → sub.isListed = false
  listed : ∀ sub ∈ s.subscriptions, sub.isHeard = true → sub.isStopped = false →
    sub.isListed = true

theorem isWanted_iff :
    s.isWanted service = true ↔ ∃ sub ∈ s.subscriptions,
      sub.service = service ∧ sub.isHeard = true ∧ sub.isStopped = false := by
  simp [isWanted, and_assoc]

/-- What a subscription is after an action was there before, or is made now. -/
theorem mem_subscriptions_perform (h : (s.perform action).IsNumbered) {sub' : Subscription}
    (hsub : sub' ∈ (s.perform action).subscriptions) :
    (∃ sub ∈ s.subscriptions, sub' = s.effect action sub) ∨
      ∃ id service, action = .subscribe id service ∧ sub' = s.opening id service := by
  have hfound := h.subscription?_eq hsub
  rw [subscription?_perform, Option.or_eq_some_iff] at hfound
  rcases hfound with hold | ⟨_, hnew⟩
  · obtain ⟨sub, hsub, rfl⟩ := Option.map_eq_some_iff.mp hold
    exact Or.inl ⟨sub, mem_of_subscription? hsub, rfl⟩
  · cases action with
    | subscribe id service =>
      simp only [made?] at hnew
      split at hnew
      · next hid =>
        refine Or.inr ⟨id, service, rfl, ?_⟩
        rw [hid]
        exact (Option.some.inj hnew).symm
      · cases hnew
    | _ => cases hnew

theorem isStopped_of_effect (s : State) (action : Action) (sub : Subscription) :
    (s.effect action sub).isStopped = false → sub.isStopped = false := by
  refine effect_cases (motive := fun sub' => sub'.isStopped = false → sub.isStopped = false) s
    action id (fun service cs h => ?_) (fun _ => id) nofun (fun _ => id) id
  rwa [Subscription.notify_eq] at h

/-- A subscription that is wanted loses its place on the list to an unsubscription only. -/
theorem isListed_effect_of_wanted (hown : ∀ service id, action ≠ .unsubscribe service id)
    (hlisted : sub.isHeard = true → sub.isStopped = false → sub.isListed = true)
    (hheard : (s.effect action sub).isHeard = true)
    (hstopped : (s.effect action sub).isStopped = false) :
    (s.effect action sub).isListed = true := by
  have hheard' : sub.isHeard = true := ((isHeard_effect s sub action).mp hheard).1
  have hlisted' := hlisted hheard' (isStopped_of_effect s action sub hstopped)
  rw [isListed_effect, hlisted', Bool.true_and, Bool.not_eq_true']
  cases action with
  | commit service is => simp [delists, hheard']
  | unsubscribe service id => exact absurd rfl (hown service id)
  | stop id =>
    simp only [effect] at hstopped
    split at hstopped
    · cases hstopped
    · next hid => simp [delists, hid]
  | _ => rfl

theorem Orderly.perform (h : s.Orderly) (hnumbered : (s.perform action).IsNumbered)
    (hown : ∀ service id, action ≠ .unsubscribe service id) : (s.perform action).Orderly where
  numbered := hnumbered
  unlisted sub' hsub' := by
    rcases mem_subscriptions_perform hnumbered hsub' with ⟨sub, hsub, rfl⟩ | ⟨_, _, _, rfl⟩
    · exact isListed_effect_of_isStopped (h.unlisted sub hsub) s action
    · exact nofun
  listed sub' hsub' := by
    rcases mem_subscriptions_perform hnumbered hsub' with ⟨sub, hsub, rfl⟩ | ⟨_, _, _, rfl⟩
    · exact isListed_effect_of_wanted hown (h.listed sub hsub)
    · exact fun _ _ => rfl

theorem isWanted_of_perform (h : (s.perform action).IsNumbered)
    (hwatch : ∀ id, action ≠ .subscribe id service)
    (hwanted : (s.perform action).isWanted service = true) : s.isWanted service = true := by
  obtain ⟨sub', hsub', hservice, hheard, hstopped⟩ := isWanted_iff.mp hwanted
  rcases mem_subscriptions_perform h hsub' with ⟨sub, hsub, rfl⟩ | ⟨id, service', rfl, rfl⟩
  · exact isWanted_iff.mpr ⟨sub, hsub, (effect_id_service s action sub).2.symm.trans hservice,
      ((isHeard_effect s sub action).mp hheard).1, isStopped_of_effect s action sub hstopped⟩
  · exact absurd (congrArg (Action.subscribe id) hservice) (hwatch id)

/-! ## Watchers that are wanted -/

theorem Orderly.watcherCount_pos (h : s.Orderly) (hwanted : s.isWanted service = true) :
    0 < s.watcherCount service := by
  obtain ⟨sub, hsub, hservice, hheard, hstopped⟩ := isWanted_iff.mp hwanted
  refine List.countP_pos_iff.mpr ⟨sub, hsub, ?_⟩
  rw [Subscription.isTo, h.listed sub hsub hheard hstopped, hservice, beq_self_eq_true]
  rfl

theorem Orderly.isHeard_eq (h : s.Orderly) (hunwanted : s.isWanted service = false)
    (hsub : sub ∈ s.subscriptions) (hto : sub.isTo service = true) : sub.isHeard = false := by
  rw [Subscription.isTo, Bool.and_eq_true, beq_iff_eq] at hto
  have hstopped : sub.isStopped = false := by
    by_contra hstopped
    rw [h.unlisted sub hsub (Bool.not_eq_false _ ▸ hstopped)] at hto
    cases hto.1
  by_contra hheard
  rw [Bool.not_eq_false] at hheard
  rw [isWanted_iff.mpr ⟨sub, hsub, hto.2, hheard, hstopped⟩] at hunwanted
  cases hunwanted

/-- A commit with changes leaves a service without watchers if none of its subscriptions is wanted.
-/
theorem Orderly.watcherCount_commit (h : s.Orderly) (hunwanted : s.isWanted service = false)
    {is : List Instance} (hchanges : (s.commit service is).1 ≠ []) :
    (s.commit service is).2.watcherCount service = 0 := by
  refine List.countP_eq_zero.mpr fun sub' hsub' hto => ?_
  obtain ⟨sub, hsub, rfl⟩ := List.mem_map.mp hsub'
  rw [Subscription.notify_eq, Subscription.isTo, Bool.and_eq_true, Bool.and_eq_true,
    beq_iff_eq] at hto
  obtain ⟨⟨hlisted, hkept⟩, hservice⟩ := hto
  replace hservice : sub.service = service := hservice
  have hsome : (difference (s.instances service) (distinct is)).isEmpty = false :=
    List.isEmpty_eq_false_iff.mpr hchanges
  have hheard : sub.isHeard = false := by
    refine h.isHeard_eq hunwanted hsub ?_
    rw [Subscription.isTo, hlisted, hservice, beq_self_eq_true]
    rfl
  rw [hheard, hsome, hservice, bne_self_eq_false] at hkept
  cases hkept

def noted (s : State) (id : Nat) : State := s.alter id fun sub => { sub with isStopped := true }

theorem Orderly.stop_of_unwatched (h : s.Orderly) {id : Nat} (hsub : s.subscription? id = some sub)
    (hcount : s.watcherCount sub.service = 0) : s.stop id = (none, s.noted id) := by
  unfold stop
  rw [hsub]
  dsimp only
  split
  · next hstopped =>
    have hself : s.noted id = s := by
      refine congrArg (fun subs => { s with subscriptions := subs }) ?_
      refine (List.map_congr_left fun sub' hsub' => ?_).trans (List.map_id _)
      split
      · next hid =>
        have hfound := h.numbered.subscription?_eq hsub'
        rw [hid, hsub, Option.some.injEq] at hfound
        rw [← hfound, id_eq]
        cases sub
        exact congrArg _ hstopped.symm
      · rfl
    rw [hself]
  · unfold unsubscribe
    refine if_neg fun hany => ?_
    obtain ⟨sub', hsub', hto⟩ := List.any_eq_true.mp hany
    obtain ⟨old, hold, rfl⟩ := List.mem_map.mp hsub'
    have hnone := List.countP_eq_zero.mp hcount old hold
    rw [Bool.and_eq_true] at hto
    refine hnone ?_
    split at hto
    · exact hto.1
    · exact hto.1

end State

namespace PollingRegistry

variable {options : PollingOptions} {source : Catalog} {r r' : PollingRegistry} {m : Action}
  {service : String}

/-! ## The subscriptions of a run -/

/-- The subscriptions that actions make: their numbers and services. -/
def watched (actions : List Action) : List (Nat × String) :=
  actions.filterMap fun
    | .watch id service => some (id, service)
    | _ => none

theorem watched_append (as bs : List Action) : watched (as ++ bs) = watched as ++ watched bs :=
  List.filterMap_append

theorem watched_of_byUser? (h : m.byUser? = none) : watched [m] = [] := by
  cases m with
  | watch id service => cases h
  | _ => rfl

theorem byUser?_of_ending {e : String × Ending} (h : r.ending? m = some e) : m.byUser? = none := by
  cases m with
  | beginRefresh service => rfl
  | step i choice => rfl
  | _ => cases h

theorem labels_perform_moment (hm : m.isSingle = true) :
    (r.perform m).state.labels = r.state.labels ++ watched [m] := by
  rw [r.state_perform hm, State.labels_performAll]
  congr 1
  cases hends : r.ending? m with
  | none =>
    rw [onState?_of_none hends]
    cases m <;> rfl
  | some e =>
    rw [onState?_of_ending hends, watched_of_byUser? (byUser?_of_ending hends), Ending.commit?]
    cases e.2.entries? <;> rfl

theorem onState?_ne_unsubscribe (id : Nat) : r.onState? m ≠ some (.unsubscribe service id) := by
  intro haction
  cases hends : r.ending? m with
  | some e =>
    rw [onState?_of_ending hends] at haction
    obtain ⟨entries, _, hcommit⟩ := Option.map_eq_some_iff.mp haction
    cases hcommit
  | none =>
    rw [onState?_of_none hends] at haction
    cases m <;> cases haction

theorem orderly_perform_moment (h : r.state.Orderly) (hm : m.isSingle = true)
    (hnumbered : (r.perform m).state.IsNumbered) : (r.perform m).state.Orderly := by
  rw [r.state_perform hm] at hnumbered ⊢
  cases haction : r.onState? m with
  | none => exact h
  | some action =>
    rw [haction] at hnumbered
    refine State.Orderly.perform h hnumbered fun service id heq => ?_
    exact onState?_ne_unsubscribe id (heq ▸ haction)

theorem orderly_elapses (h : r.state.Orderly) (hr : r.Elapses r') :
    r'.state.Orderly ∧ r'.state.labels = r.state.labels := by
  induction hr with
  | refl => exact ⟨h, rfl⟩
  | @tail r' _ _ hmoment ih =>
    obtain ⟨m, hm, rfl⟩ := hmoment
    obtain ⟨horderly, hsame⟩ := ih
    have hlabels := labels_perform_moment (r := r') hm.isSingle
    rw [watched_of_byUser? hm.byUser?_eq, List.append_nil] at hlabels
    refine ⟨orderly_perform_moment horderly hm.isSingle ?_, hlabels.trans hsame⟩
    rw [State.IsNumbered, hlabels]
    exact horderly.numbered

theorem orderly_perform (h : r.state.Orderly) (hrecorded : r.Recorded options source)
    {action : Action}
    (hids : ((r.state.labels ++ watched [action]).map (·.1)).Nodup) :
    (r.perform action).state.Orderly ∧
      (r.perform action).state.labels = r.state.labels ++ watched [action] := by
  rcases hrecorded.isSingle_or_elapses action with hsingle | ⟨huser, helapses⟩
  · have hlabels := labels_perform_moment (r := r) hsingle
    refine ⟨orderly_perform_moment h hsingle ?_, hlabels⟩
    rw [State.IsNumbered, hlabels]
    exact hids
  · rw [watched_of_byUser? huser, List.append_nil]
    exact orderly_elapses h helapses

theorem orderly_perform_first (h : r.state.Orderly) (hrecorded : r.Recorded options source)
    {action : Action} {rest : List Action}
    (hids : ((r.state.labels ++ watched (action :: rest)).map (·.1)).Nodup) :
    (r.perform action).state.Orderly ∧
      (r.perform action).state.labels = r.state.labels ++ watched [action] ∧
      (((r.perform action).state.labels ++ watched rest).map (·.1)).Nodup := by
  rw [← List.singleton_append, watched_append, ← List.append_assoc] at hids
  have hfirst : ((r.state.labels ++ watched [action]).map (·.1)).Nodup := by
    rw [List.map_append] at hids
    exact hids.of_append_left
  obtain ⟨horderly, hlabels⟩ := orderly_perform h hrecorded hfirst
  refine ⟨horderly, hlabels, ?_⟩
  rw [hlabels]
  exact hids

theorem orderly_performAll (h : r.state.Orderly) (hrecorded : r.Recorded options source)
    {actions : List Action}
    (hids : ((r.state.labels ++ watched actions).map (·.1)).Nodup) :
    (r.performAll actions).state.Orderly ∧
      (r.performAll actions).state.labels = r.state.labels ++ watched actions := by
  induction actions generalizing r with
  | nil => exact ⟨h, (List.append_nil _).symm⟩
  | cons action rest ih =>
    obtain ⟨horderly, hlabels, hrest⟩ := orderly_perform_first h hrecorded hids
    obtain ⟨horderly', hlabels'⟩ := ih horderly (hrecorded.performActions [action]) hrest
    refine ⟨horderly', ?_⟩
    rw [performAll_cons, hlabels', hlabels, List.append_assoc, ← watched_append]
    rfl

theorem orderly_create {catalog : Catalog} {inRuntime : Bool}
    (hcreate : create catalog options inRuntime = .ok r) :
    r.state.Orderly ∧ r.state.labels = [] := by
  unfold create at hcreate
  split at hcreate
  · cases hcreate
    exact ⟨⟨List.nodup_nil, nofun, nofun⟩, rfl⟩
  · cases hcreate

theorem isWanted_of_perform_moment (hm : m.isSingle = true)
    (hnumbered : (r.perform m).state.IsNumbered) (hwatch : ∀ id, m ≠ .watch id service)
    (hunwanted : r.state.isWanted service = false) :
    (r.perform m).state.isWanted service = false := by
  rw [r.state_perform hm] at hnumbered ⊢
  cases haction : r.onState? m with
  | none => exact hunwanted
  | some action =>
    rw [haction] at hnumbered
    refine Bool.eq_false_iff.mpr fun hwanted => ?_
    rw [State.isWanted_of_perform hnumbered (fun id heq => ?_) hwanted] at hunwanted
    · cases hunwanted
    · exact hwatch id (eq_watch_of_onState? (heq ▸ haction))

theorem isWanted_performAll_eq_false (h : r.state.Orderly) (hrecorded : r.Recorded options source)
    {moments : List Action}
    (hids : ((r.state.labels ++ watched moments).map (·.1)).Nodup)
    (hmoments : ∀ m ∈ moments, m.isSingle = true ∧ ∀ id, m ≠ .watch id service)
    (hunwanted : r.state.isWanted service = false) :
    (r.performAll moments).state.isWanted service = false := by
  induction moments generalizing r with
  | nil => exact hunwanted
  | cons m rest ih =>
    obtain ⟨⟨hm, hwatch⟩, hrest⟩ := List.forall_mem_cons.mp hmoments
    obtain ⟨horderly, _, hids'⟩ := orderly_perform_first h hrecorded hids
    exact ih horderly (hrecorded.perform hm) hids' hrest
      (isWanted_of_perform_moment hm horderly.numbered hwatch hunwanted)

end PollingRegistry

end Roster
