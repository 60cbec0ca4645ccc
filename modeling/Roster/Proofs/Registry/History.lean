import Roster.Proofs.Registry.Subscription

/-!
# Histories of a registry's state

Everything that is done to the state of a registry is an `Action`, and a history is a list of them.
The main statements say once what an action does: to the subscription of a number
(`subscription?_perform`, through `effect` and `made?`), to the members of a service
(`instances_perform`) and to the least capacity. What holds of every history follows by induction.
-/

namespace Roster.State

/-! ## Actions -/

/-- What can be done to the state of a registry. -/
inductive Action where
  | commit (service : String) (is : List Instance)
  | subscribe (id : Nat) (service : String)
  | unsubscribe (service : String) (id : Nat)
  | stop (id : Nat)
  | receive (id : Nat) (limit : Option Nat)
  | dropReceiver (id : Nat)
  deriving DecidableEq

def perform (s : State) : Action → State
  | .commit service is => (s.commit service is).2
  | .subscribe id service => s.subscribe id service
  | .unsubscribe service id => (s.unsubscribe service id).2
  | .stop id => (s.stop id).2
  | .receive id limit => ((s.receive id limit).map (·.2)).getD s
  | .dropReceiver id => s.dropReceiver id

/-- The state after actions in turn. -/
def performAll (s : State) (actions : List Action) : State := actions.foldl perform s

@[simp] theorem performAll_nil (s : State) : s.performAll [] = s := rfl

@[simp] theorem performAll_cons (s : State) (action : Action) (rest : List Action) :
    s.performAll (action :: rest) = (s.perform action).performAll rest := rfl

theorem performAll_append (s : State) (as bs : List Action) :
    s.performAll (as ++ bs) = (s.performAll as).performAll bs :=
  List.foldl_append

def Action.given? : Action → Option Nat
  | .subscribe id _ => some id
  | _ => none

/-- The number of the subscription that an action is about. Commits are about none. -/
def Action.subject? : Action → Option Nat
  | .commit _ _ => none
  | .subscribe id _ => some id
  | .unsubscribe _ id => some id
  | .stop id => some id
  | .receive id _ => some id
  | .dropReceiver id => some id

theorem Action.given?_ne {action : Action} {id : Nat} (h : action.subject? ≠ some id) :
    action.given? ≠ some id := by
  cases action with
  | subscribe id' service => exact h
  | _ => exact nofun

/-! ## Subscriptions by number -/

theorem id_of_subscription? {s : State} {id : Nat} {sub : Subscription}
    (h : s.subscription? id = some sub) : sub.id = id := by
  have hid := List.find?_some h
  exact beq_iff_eq.mp hid

theorem mem_of_subscription? {s : State} {id : Nat} {sub : Subscription}
    (h : s.subscription? id = some sub) : sub ∈ s.subscriptions :=
  List.mem_of_find?_eq_some h

theorem find?_map_of_id (subs : List Subscription) (f : Subscription → Subscription)
    (hf : ∀ sub, (f sub).id = sub.id) (id : Nat) :
    (subs.map f).find? (·.id == id) = (subs.find? (·.id == id)).map f := by
  rw [List.find?_map]
  congr 2
  funext sub
  rw [Function.comp_apply, hf]

theorem subscription?_alter (s : State) (id id' : Nat) (f : Subscription → Subscription)
    (hf : ∀ sub, (f sub).id = sub.id) :
    (s.alter id f).subscription? id' =
      (s.subscription? id').map fun sub => if sub.id = id then f sub else sub := by
  refine find?_map_of_id _ _ (fun sub => ?_) id'
  split
  · exact hf sub
  · rfl

theorem map_subscription?_eq_self {s : State} {id : Nat} {f : Subscription → Subscription}
    (hf : ∀ sub, s.subscription? id = some sub → f sub = sub) :
    (s.subscription? id).map f = s.subscription? id := by
  cases h : s.subscription? id with
  | none => rfl
  | some sub => rw [Option.map_some, hf sub h]

/-! ## What an action does to a subscription -/

/-- The subscription that is made now. The arrival of every present member waits. -/
def opening (s : State) (id : Nat) (service : String) : Subscription where
  id
  service
  capacity := s.capacityFor service
  queue := (s.instances service).map Change.joined

/-- What an action does to a subscription that is there. -/
def effect (s : State) : Action → Subscription → Subscription
  | .commit service is, sub => sub.notify service (s.commit service is).1
  | .subscribe _ _, sub => sub
  | .unsubscribe service id, sub => if sub.id = id then sub.withdrawn service else sub
  | .stop id, sub => if sub.id = id then sub.stopped else sub
  | .receive id limit, sub => if sub.id = id then sub.drained limit else sub
  | .dropReceiver id, sub => if sub.id = id then sub.unheard else sub

/-- The subscription of a number that an action makes. -/
def made? (s : State) (id : Nat) : Action → Option Subscription
  | .subscribe id' service => if id' = id then some (s.opening id service) else none
  | _ => none

theorem subscription?_subscribe (s : State) (id id' : Nat) (service : String) :
    (s.subscribe id service).subscription? id' =
      (s.subscription? id').or (if id = id' then some (s.opening id' service) else none) := by
  show (s.subscriptions ++ [s.opening id service]).find? (·.id == id') = _
  rw [List.find?_append]
  congr 1
  by_cases h : id = id'
  · subst h
    rw [if_pos rfl]
    exact List.find?_cons_of_pos (beq_self_eq_true id)
  · rw [if_neg h]
    exact List.find?_cons_of_neg (by simpa [opening] using h)

theorem subscription?_unsubscribe (s : State) (service : String) (id id' : Nat) :
    (s.unsubscribe service id).2.subscription? id' =
      (s.subscription? id').map fun sub => if sub.id = id then sub.withdrawn service else sub := by
  unfold unsubscribe
  split
  · exact subscription?_alter s id id' (Subscription.withdrawn service) fun _ => rfl
  · next hnone =>
    -- No listed subscription of this number is to the service, so there is nothing to withdraw.
    refine (map_subscription?_eq_self fun sub hsub => ?_).symm
    split
    · next hid =>
      rw [Bool.not_eq_true, List.any_eq_false] at hnone
      have hnot := hnone sub (mem_of_subscription? hsub)
      rw [hid, Subscription.isTo] at hnot
      cases sub
      simp_all [Subscription.withdrawn]
    · rfl

theorem subscription?_stop (s : State) (id id' : Nat) :
    (s.stop id).2.subscription? id' =
      (s.subscription? id').map fun sub => if sub.id = id then sub.stopped else sub := by
  unfold stop
  cases hfound : s.subscription? id with
  | none =>
    refine (map_subscription?_eq_self fun sub hsub => if_neg fun hid => ?_).symm
    rw [← id_of_subscription? hsub, hid, hfound] at hsub
    cases hsub
  | some found =>
    dsimp only
    split
    · next hstopped =>
      refine (map_subscription?_eq_self fun sub hsub => ?_).symm
      split
      · next hid =>
        rw [← id_of_subscription? hsub, hid, hfound] at hsub
        cases hsub
        cases found
        simp_all [Subscription.stopped]
      · rfl
    · next hstopped =>
      rw [subscription?_unsubscribe, subscription?_alter, Option.map_map]
      rotate_left
      · exact fun _ => rfl
      refine Option.map_congr fun sub hsub => ?_
      rw [Function.comp_apply]
      split
      · next hid =>
        rw [← id_of_subscription? hsub, hid, hfound] at hsub
        cases hsub
        simp [Subscription.withdrawn, Subscription.stopped, hstopped]
      · rfl

theorem subscription?_receive (s : State) (id id' : Nat) (limit : Option Nat) :
    (((s.receive id limit).map (·.2)).getD s).subscription? id' =
      (s.subscription? id').map fun sub => if sub.id = id then sub.drained limit else sub := by
  unfold receive
  cases hfound : s.subscription? id with
  | none =>
    show s.subscription? id' = _
    refine (map_subscription?_eq_self fun sub hsub => if_neg fun hid => ?_).symm
    rw [← id_of_subscription? hsub, hid, hfound] at hsub
    cases hsub
  | some found =>
    show (s.alter id _).subscription? id' = _
    rw [subscription?_alter]
    rotate_left
    · exact fun _ => rfl
    refine Option.map_congr fun sub hsub => ?_
    split
    · next hid =>
      rw [← id_of_subscription? hsub, hid, hfound] at hsub
      cases hsub
      rfl
    · rfl

/-- What an action does, said once: it changes the subscription of a number that is there by its
effect, or makes it. -/
theorem subscription?_perform (s : State) (action : Action) (id : Nat) :
    (s.perform action).subscription? id =
      ((s.subscription? id).map (s.effect action)).or (s.made? id action) := by
  cases action with
  | commit service is =>
    exact (find?_map_of_id _ _ (Subscription.notify_id service _) id).trans Option.or_none.symm
  | subscribe id' service =>
    rw [show s.effect (.subscribe id' service) = fun sub => sub from rfl, Option.map_id_fun',
      id_eq]
    exact subscription?_subscribe s id' id service
  | unsubscribe service id' =>
    exact (subscription?_unsubscribe s service id' id).trans Option.or_none.symm
  | stop id' => exact (subscription?_stop s id' id).trans Option.or_none.symm
  | receive id' limit => exact (subscription?_receive s id' id limit).trans Option.or_none.symm
  | dropReceiver id' =>
    exact (subscription?_alter s id' id Subscription.unheard fun _ => rfl).trans
      Option.or_none.symm

/-- Whatever holds of a subscription, and of all that can become of it, holds after an action. -/
theorem effect_cases {motive : Subscription → Prop} {sub : Subscription} (s : State)
    (action : Action) (same : motive sub) (notify : ∀ service cs, motive (sub.notify service cs))
    (withdrawn : ∀ service, motive (sub.withdrawn service)) (stopped : motive sub.stopped)
    (drained : ∀ limit, motive (sub.drained limit)) (unheard : motive sub.unheard) :
    motive (s.effect action sub) := by
  cases action with
  | commit service is => exact notify service _
  | subscribe id service => exact same
  | unsubscribe service id =>
    simp only [effect]
    split
    · exact withdrawn service
    · exact same
  | stop id =>
    simp only [effect]
    split
    · exact stopped
    · exact same
  | receive id limit =>
    simp only [effect]
    split
    · exact drained limit
    · exact same
  | dropReceiver id =>
    simp only [effect]
    split
    · exact unheard
    · exact same

theorem effect_id_service (s : State) (action : Action) (sub : Subscription) :
    (s.effect action sub).id = sub.id ∧ (s.effect action sub).service = sub.service := by
  refine effect_cases (motive := fun sub' => sub'.id = sub.id ∧ sub'.service = sub.service) s action
    ⟨rfl, rfl⟩ (fun service cs => ?_) (fun _ => ⟨rfl, rfl⟩) ⟨rfl, rfl⟩ (fun _ => ⟨rfl, rfl⟩)
    ⟨rfl, rfl⟩
  exact ⟨sub.notify_id service cs, sub.notify_service service cs⟩

theorem isListed_of_effect {s : State} {action : Action} {sub : Subscription} :
    (s.effect action sub).isListed = true → sub.isListed = true := by
  refine effect_cases (motive := fun sub' => sub'.isListed = true → sub.isListed = true) s action
    id (fun service cs h => ?_) (fun service h => ?_) (fun h => ?_) (fun _ => id) id
  · rw [Subscription.notify_eq] at h
    exact (Bool.and_eq_true_iff.mp h).1
  · exact (Bool.and_eq_true_iff.mp h).1
  · exact (Bool.and_eq_true_iff.mp h).1

/-- Among the actions that are about other subscriptions or none, only commits have an effect. -/
theorem effect_eq_of_subject?_ne {s : State} {action : Action} {sub : Subscription}
    (h : action.subject? ≠ some sub.id) :
    s.effect action sub =
      match action with
      | .commit service is => sub.notify service (s.commit service is).1
      | _ => sub := by
  cases action with
  | commit service is => rfl
  | subscribe id service => rfl
  | unsubscribe service id => exact if_neg fun hid => h (congrArg some hid.symm)
  | stop id => exact if_neg fun hid => h (congrArg some hid.symm)
  | receive id limit => exact if_neg fun hid => h (congrArg some hid.symm)
  | dropReceiver id => exact if_neg fun hid => h (congrArg some hid.symm)

/-! ## What an action does to members -/

def kept? (members : List Instance) : Option (List Instance) :=
  if members.isEmpty then none else some members

theorem getD_kept? (members : List Instance) : (kept? members).getD [] = members := by
  cases members <;> rfl

theorem get?_snapshots_commit (s : State) (service service' : String) (is : List Instance) :
    (s.commit service is).2.snapshots.get? service' =
      if service = service' then kept? (distinct is) else s.snapshots.get? service' := by
  show Table.get? (if (distinct is).isEmpty then _ else _) service' = _
  unfold kept?
  split
  · exact Table.get?_erase s.snapshots service service'
  · exact Table.get?_set s.snapshots service service' (distinct is)

theorem instances_commit (s : State) (service service' : String) (is : List Instance) :
    (s.commit service is).2.instances service' =
      if service = service' then distinct is else s.instances service' := by
  rw [instances, get?_snapshots_commit]
  split
  · exact getD_kept? (distinct is)
  · rfl

theorem unsubscribe_eq (s : State) (service : String) (id : Nat) :
    (s.unsubscribe service id).2 =
      { s with subscriptions := (s.unsubscribe service id).2.subscriptions } := by
  unfold unsubscribe
  split <;> rfl

theorem stop_eq (s : State) (id : Nat) :
    (s.stop id).2 = { s with subscriptions := (s.stop id).2.subscriptions } := by
  unfold stop
  split
  · rfl
  · split
    · rfl
    · exact unsubscribe_eq _ _ _

theorem receive_eq (s : State) (id : Nat) (limit : Option Nat) :
    ((s.receive id limit).map (·.2)).getD s =
      { s with subscriptions := (((s.receive id limit).map (·.2)).getD s).subscriptions } := by
  unfold receive
  cases s.subscription? id <;> rfl

/-- A commit to a service replaces its members, and nothing else touches them. -/
theorem instances_perform (s : State) (action : Action) (service : String) :
    (s.perform action).instances service =
      match action with
      | .commit service' is => if service' = service then distinct is else s.instances service
      | _ => s.instances service := by
  cases action with
  | commit service' is => exact instances_commit s service' service is
  | subscribe id service' => rfl
  | unsubscribe service' id =>
    exact (congrArg (instances · service) (unsubscribe_eq s service' id)).trans rfl
  | stop id => exact (congrArg (instances · service) (stop_eq s id)).trans rfl
  | receive id limit => exact (congrArg (instances · service) (receive_eq s id limit)).trans rfl
  | dropReceiver id => rfl

/-- No service has two members at one address. -/
def HasDistinct (s : State) : Prop := ∀ service, ((s.instances service).map (·.address)).Nodup

theorem hasDistinct_new (buffer : Nat) : (new buffer).HasDistinct := fun _ => List.nodup_nil

theorem HasDistinct.perform {s : State} (h : s.HasDistinct) (action : Action) :
    (s.perform action).HasDistinct := by
  intro service
  rw [instances_perform]
  split
  · split
    · exact nodup_map_address_distinct _
    · exact h service
  · exact h service

theorem HasDistinct.performAll {s : State} (h : s.HasDistinct) (actions : List Action) :
    (s.performAll actions).HasDistinct := by
  induction actions generalizing s with
  | nil => exact h
  | cons action rest ih => exact ih (h.perform action)

theorem buffer_perform (s : State) (action : Action) : (s.perform action).buffer = s.buffer := by
  cases action with
  | commit service is => rfl
  | subscribe id service => rfl
  | unsubscribe service id => exact (congrArg buffer (unsubscribe_eq s service id)).trans rfl
  | stop id => exact (congrArg buffer (stop_eq s id)).trans rfl
  | receive id limit => exact (congrArg buffer (receive_eq s id limit)).trans rfl
  | dropReceiver id => rfl

theorem buffer_performAll (s : State) (actions : List Action) :
    (s.performAll actions).buffer = s.buffer := by
  induction actions generalizing s with
  | nil => rfl
  | cons action rest ih => rw [performAll_cons, ih, buffer_perform]

/-! ## Watchers -/

theorem watcherCount_map_le {s : State} {service : String} {f : Subscription → Subscription}
    (hf : ∀ sub, (f sub).isTo service = true → sub.isTo service = true) :
    ({ s with subscriptions := s.subscriptions.map f } : State).watcherCount service ≤
      s.watcherCount service := by
  show (s.subscriptions.map f).countP _ ≤ s.subscriptions.countP _
  rw [List.countP_map]
  exact List.countP_mono_left fun sub _ => hf sub

theorem watcherCount_alter_le {s : State} {id : Nat} {service : String}
    {f : Subscription → Subscription}
    (hf : ∀ sub, (f sub).isTo service = true → sub.isTo service = true) :
    (s.alter id f).watcherCount service ≤ s.watcherCount service := by
  refine watcherCount_map_le fun sub hsub => ?_
  split at hsub
  · exact hf sub hsub
  · exact hsub

theorem watcherCount_unsubscribe_le (s : State) (service service' : String) (id : Nat) :
    (s.unsubscribe service id).2.watcherCount service' ≤ s.watcherCount service' := by
  unfold unsubscribe
  split
  · refine watcherCount_alter_le fun sub hsub => ?_
    simp only [Subscription.isTo, Bool.and_eq_true] at hsub ⊢
    exact ⟨hsub.1.1, hsub.2⟩
  · exact Nat.le_refl _

theorem watcherCount_stop_le (s : State) (id : Nat) (service : String) :
    (s.stop id).2.watcherCount service ≤ s.watcherCount service := by
  unfold stop
  split
  · exact Nat.le_refl _
  · split
    · exact Nat.le_refl _
    · exact Nat.le_trans (watcherCount_unsubscribe_le _ _ _ _)
        (watcherCount_alter_le fun _ hsub => hsub)

theorem watcherCount_perform_le {s : State} {action : Action} (h : action.given? = none)
    (service : String) : (s.perform action).watcherCount service ≤ s.watcherCount service := by
  cases action with
  | commit service' is =>
    refine watcherCount_map_le fun sub hsub => ?_
    rw [Subscription.notify_eq] at hsub
    simp only [Subscription.isTo, Bool.and_eq_true] at hsub ⊢
    exact ⟨hsub.1.1, hsub.2⟩
  | subscribe id service' => cases h
  | unsubscribe service' id => exact watcherCount_unsubscribe_le s service' service id
  | stop id => exact watcherCount_stop_le s id service
  | receive id limit =>
    show (((s.receive id limit).map (·.2)).getD s).watcherCount service ≤ _
    unfold receive
    cases s.subscription? id with
    | none => exact Nat.le_refl _
    | some sub => exact watcherCount_alter_le fun _ hsub => hsub
  | dropReceiver id => exact watcherCount_alter_le fun _ hsub => hsub

theorem watcherCount_subscribe (s : State) (id : Nat) (service service' : String) :
    (s.subscribe id service).watcherCount service' =
      s.watcherCount service' + if service = service' then 1 else 0 := by
  show (s.subscriptions ++ [s.opening id service]).countP _ = _
  rw [List.countP_append, List.countP_singleton]
  simp [watcherCount, Subscription.isTo, opening]

theorem stop_eq_some {s : State} {id n : Nat} (h : (s.stop id).1 = some n) :
    ∃ sub, s.subscription? id = some sub ∧ (s.stop id).2.watcherCount sub.service = n := by
  unfold stop at h ⊢
  cases hfound : s.subscription? id with
  | none =>
    rw [hfound] at h
    cases h
  | some sub =>
    rw [hfound] at h
    refine ⟨sub, rfl, ?_⟩
    dsimp only at h ⊢
    split at h
    · cases h
    · next hstopped =>
      rw [if_neg hstopped]
      unfold unsubscribe at h ⊢
      split at h
      · next hany =>
        rw [if_pos hany]
        exact Option.some.inj h
      · cases h

/-! ## Numbers -/

theorem subscription?_perform_of_ne {s : State} {action : Action} {id : Nat}
    (h : action.given? ≠ some id) :
    (s.perform action).subscription? id = (s.subscription? id).map (s.effect action) := by
  rw [subscription?_perform]
  cases action with
  | subscribe id' service =>
    rw [made?, if_neg fun hid => h (congrArg some hid), Option.or_none]
  | _ => exact Option.or_none

theorem subscription?_performAll_eq_none {s : State} {id : Nat} (hs : s.subscription? id = none)
    {actions : List Action} (h : ∀ action ∈ actions, action.given? ≠ some id) :
    (s.performAll actions).subscription? id = none := by
  induction actions generalizing s with
  | nil => exact hs
  | cons action rest ih =>
    obtain ⟨haction, hrest⟩ := List.forall_mem_cons.mp h
    refine ih ?_ hrest
    rw [subscription?_perform_of_ne haction, hs, Option.map_none]

end Roster.State
