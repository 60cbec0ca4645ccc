import Roster.Proofs.Registry.Delivery

/-!
# The listed subscriptions of each service

The rolls of a state hold the numbers of the listed subscriptions of each service, in the order in
which they were made (`roll`). An action adds the subscription that it makes, and takes those off
that it delists (`IsNumbered.roll_perform`).

The lists that are kept under services, one for each service that has any, are followed beside the
state (`listsAfter`): subscriptions are added to them, struck off, and pruned. They are the rolls
that are not empty (`Enrolled.performAll`), and who strikes a number off is told what an
unsubscription returns (`Enrolled.strike`).
-/

namespace Roster.State

variable {s : State} {id : Nat} {service : String} {sub : Subscription} {action : Action}
  {actions : List Action}

/-- Whether changes are offered to the subscription of a number. -/
def isListed (s : State) (id : Nat) : Bool := (s.subscription? id).any (·.isListed)

/-- Whether an action takes a subscription off the list, if it is on it. -/
def delists (s : State) (sub : Subscription) : Action → Bool
  | .commit service is =>
    sub.service == service && !sub.isHeard && !(s.commit service is).1.isEmpty
  | .unsubscribe service id => sub.id == id && sub.service == service
  | .stop id => sub.id == id && !sub.isStopped
  | _ => false

theorem isListed_effect (s : State) (sub : Subscription) (action : Action) :
    (s.effect action sub).isListed = (sub.isListed && !s.delists sub action) := by
  cases action with
  | commit service is =>
    simp only [effect, delists, Subscription.notify_eq]
    cases sub.isHeard <;> cases (s.commit service is).1.isEmpty <;> simp [bne]
  | subscribe id service => simp [effect, delists]
  | unsubscribe service id =>
    simp only [effect, delists]
    split
    · next hid => simp [Subscription.withdrawn, hid, bne]
    · next hid => simp [hid]
  | stop id =>
    simp only [effect, delists]
    split
    · next hid => simp [Subscription.stopped, hid]
    · next hid => simp [hid]
  | receive id limit =>
    simp only [effect, delists]
    split <;> simp [Subscription.drained]
  | dropReceiver id =>
    simp only [effect, delists]
    split <;> simp [Subscription.unheard]

/-- The subscriptions that actions make: their numbers and services. -/
def subscribed (actions : List Action) : List (Nat × String) :=
  actions.filterMap fun
    | .subscribe id service => some (id, service)
    | _ => none

/-! ## All subscriptions -/

def labels (s : State) : List (Nat × String) :=
  s.subscriptions.map fun sub => (sub.id, sub.service)

theorem labels_alter (s : State) (id : Nat) {f : Subscription → Subscription}
    (hf : ∀ sub, (f sub).id = sub.id ∧ (f sub).service = sub.service) :
    (s.alter id f).labels = s.labels := by
  simp only [labels, alter, List.map_map]
  refine List.map_congr_left fun sub _ => ?_
  rw [Function.comp_apply]
  split
  · rw [(hf sub).1, (hf sub).2]
  · rfl

theorem labels_unsubscribe (s : State) (service : String) (id : Nat) :
    (s.unsubscribe service id).2.labels = s.labels := by
  unfold unsubscribe
  split
  · exact labels_alter s id fun _ => ⟨rfl, rfl⟩
  · rfl

theorem labels_perform (s : State) (action : Action) :
    (s.perform action).labels = s.labels ++ subscribed [action] := by
  cases action with
  | commit service is =>
    refine Eq.trans ?_ (List.append_nil _).symm
    simp only [labels, perform, commit, List.map_map]
    refine List.map_congr_left fun sub _ => ?_
    rw [Function.comp_apply, Subscription.notify_id, Subscription.notify_service]
  | subscribe id service => exact List.map_append
  | unsubscribe service id =>
    exact (labels_unsubscribe s service id).trans (List.append_nil _).symm
  | stop id =>
    refine Eq.trans ?_ (List.append_nil _).symm
    simp only [perform, stop]
    split
    · rfl
    · split
      · rfl
      · rw [labels_unsubscribe, labels_alter]
        exact fun _ => ⟨rfl, rfl⟩
  | receive id limit =>
    refine Eq.trans ?_ (List.append_nil _).symm
    simp only [perform, receive]
    cases s.subscription? id with
    | none => rfl
    | some sub => exact labels_alter s id fun _ => ⟨rfl, rfl⟩
  | dropReceiver id =>
    have hlabels : (s.alter id Subscription.unheard).labels = s.labels :=
      labels_alter s id fun _ => ⟨rfl, rfl⟩
    exact hlabels.trans (List.append_nil _).symm

theorem subscribed_append (as bs : List Action) :
    subscribed (as ++ bs) = subscribed as ++ subscribed bs :=
  List.filterMap_append

theorem labels_performAll (s : State) (actions : List Action) :
    (s.performAll actions).labels = s.labels ++ subscribed actions := by
  induction actions generalizing s with
  | nil => exact (List.append_nil _).symm
  | cons action rest ih =>
    rw [performAll_cons, ih, labels_perform, List.append_assoc, ← subscribed_append]
    rfl

theorem labels_new (buffer : Nat) (actions : List Action) :
    ((new buffer).performAll actions).labels = subscribed actions :=
  (labels_performAll _ actions).trans (List.nil_append _)

def IsNumbered (s : State) : Prop := (s.labels.map (·.1)).Nodup

theorem IsNumbered.subscription?_eq (h : s.IsNumbered) (hsub : sub ∈ s.subscriptions) :
    s.subscription? sub.id = some sub := by
  unfold IsNumbered labels at h
  unfold subscription?
  generalize s.subscriptions = subs at h hsub
  induction subs with
  | nil => cases hsub
  | cons first rest ih =>
    rw [List.map_cons, List.map_cons, List.nodup_cons] at h
    rcases List.mem_cons.mp hsub with rfl | hrest
    · exact List.find?_cons_of_pos (beq_self_eq_true _)
    · have hne : first.id ≠ sub.id := by
        intro heq
        refine h.1 (heq ▸ ?_)
        rw [List.map_map]
        exact List.mem_map_of_mem hrest
      rw [List.find?_cons_of_neg (by simpa using hne)]
      exact ih h.2 hrest

/-- The numbers of the subscriptions that are listed under a service, in the order in which they
were made. -/
def roll (s : State) (service : String) : List Nat :=
  (s.subscriptions.filter (·.isTo service)).map (·.id)

theorem length_roll (s : State) (service : String) :
    (s.roll service).length = s.watcherCount service := by
  rw [roll, List.length_map, watcherCount, List.countP_eq_length_filter]

theorem IsNumbered.roll_eq (h : s.IsNumbered) (service : String) :
    s.roll service =
      (s.labels.filter fun l => l.2 == service && s.isListed l.1).map (·.1) := by
  rw [labels, List.filter_map, List.map_map]
  refine congrArg (List.map _) (List.filter_congr fun sub hsub => ?_)
  rw [Function.comp_apply, isListed, h.subscription?_eq hsub, Option.any_some, Subscription.isTo,
    Bool.and_comm]

theorem IsNumbered.mem_roll_iff (h : s.IsNumbered) :
    id ∈ s.roll service ↔ (id, service) ∈ s.labels ∧ s.isListed id = true := by
  rw [h.roll_eq, List.mem_map]
  constructor
  · rintro ⟨⟨id', service'⟩, hmem, rfl⟩
    obtain ⟨hlabel, hto⟩ := List.mem_filter.mp hmem
    rw [Bool.and_eq_true, beq_iff_eq] at hto
    obtain ⟨rfl, hlisted⟩ := hto
    exact ⟨hlabel, hlisted⟩
  · rintro ⟨hlabel, hlisted⟩
    refine ⟨(id, service), List.mem_filter.mpr ⟨hlabel, ?_⟩, rfl⟩
    rw [hlisted, beq_self_eq_true]
    rfl

theorem nodup_roll (h : s.IsNumbered) (service : String) : (s.roll service).Nodup := by
  refine List.Nodup.sublist ?_ h
  rw [labels, List.map_map]
  exact List.filter_sublist.map _

/-! ## Rolls after an action -/

/-- An action that makes no subscription takes those off the rolls that it delists. -/
theorem IsNumbered.roll_perform (h : s.IsNumbered) (hgiven : action.given? = none)
    (service : String) :
    (s.perform action).roll service =
      (s.roll service).filter fun id =>
        (s.subscription? id).any fun sub => !s.delists sub action := by
  have hlabels : (s.perform action).labels = s.labels := by
    rw [labels_perform]
    cases action with
    | subscribe id service => cases hgiven
    | _ => exact List.append_nil _
  have hnumbered : (s.perform action).IsNumbered := by
    unfold IsNumbered
    rw [hlabels]
    exact h
  rw [hnumbered.roll_eq, h.roll_eq, hlabels, List.filter_map, List.filter_filter]
  refine congrArg (List.map _) (List.filter_congr fun l _ => ?_)
  rw [Function.comp_apply, isListed, subscription?_perform_of_ne (by rw [hgiven]; nofun), isListed]
  cases s.subscription? l.1 with
  | none => simp
  | some sub =>
    rw [Option.map_some, Option.any_some, Option.any_some, Option.any_some, isListed_effect]
    cases sub.isListed <;> simp [Bool.and_comm]

theorem IsNumbered.of_mem_roll (h : s.IsNumbered) (hmem : id ∈ s.roll service) :
    ∃ sub, s.subscription? id = some sub ∧ sub.id = id ∧ sub.service = service ∧
      sub.isListed = true := by
  obtain ⟨sub, hsub, rfl⟩ := List.mem_map.mp hmem
  obtain ⟨hin, hto⟩ := List.mem_filter.mp hsub
  rw [Subscription.isTo, Bool.and_eq_true, beq_iff_eq] at hto
  exact ⟨sub, h.subscription?_eq hin, rfl, hto.2, hto.1⟩

theorem IsNumbered.roll_unsubscribe (h : s.IsNumbered) (service service' : String) (id : Nat) :
    (s.unsubscribe service id).2.roll service' =
      if service = service' then (s.roll service).erase id else s.roll service' := by
  have hgiven : (Action.unsubscribe service id).given? = none := rfl
  refine (h.roll_perform hgiven service').trans ?_
  split
  · next heq =>
    subst heq
    rw [(nodup_roll h service).erase_eq_filter]
    refine List.filter_congr fun id' hmem => ?_
    obtain ⟨sub, hfound, hid, hservice, _⟩ := h.of_mem_roll hmem
    simp [hfound, delists, hid, hservice, bne]
  · next hne =>
    refine List.filter_eq_self.mpr fun id' hmem => ?_
    obtain ⟨sub, hfound, hid, hservice, _⟩ := h.of_mem_roll hmem
    simp [hfound, delists, hservice, Ne.symm hne]

theorem roll_alter (s : State) (id : Nat) {f : Subscription → Subscription}
    (hf : ∀ sub, (f sub).id = sub.id ∧ (f sub).isTo service = sub.isTo service) :
    (s.alter id f).roll service = s.roll service := by
  have hsame (sub : Subscription) :
      (if sub.id = id then f sub else sub).id = sub.id ∧
        (if sub.id = id then f sub else sub).isTo service = sub.isTo service := by
    split
    · exact hf sub
    · exact ⟨rfl, rfl⟩
  simp only [roll, alter, List.filter_map, List.map_map]
  refine (congrArg (List.map _) (List.filter_congr fun sub _ => (hsame sub).2)).trans ?_
  exact List.map_congr_left fun sub _ => (hsame sub).1

theorem IsNumbered.stopped (h : s.IsNumbered) (id : Nat) :
    (s.alter id fun sub => { sub with isStopped := true }).IsNumbered := by
  unfold IsNumbered
  rw [labels_alter]
  · exact h
  · exact fun _ => ⟨rfl, rfl⟩

/-! ## What the one who ends a subscription is told -/

/-- An unsubscription answers with the count that it leaves, if it finds the subscription on the
list of the service. Otherwise it changes nothing. -/
theorem unsubscribe_cases (s : State) (service : String) (id : Nat) :
    (id ∈ s.roll service ∧
        (s.unsubscribe service id).1 = some ((s.unsubscribe service id).2.watcherCount service)) ∨
      id ∉ s.roll service ∧ s.unsubscribe service id = (none, s) := by
  have hany : (s.subscriptions.any fun sub => sub.isTo service && sub.id == id) = true ↔
      id ∈ s.roll service := by
    simp only [roll, List.any_eq_true, List.mem_map, List.mem_filter, Bool.and_eq_true, beq_iff_eq,
      and_assoc]
  by_cases hmem : id ∈ s.roll service
  · refine Or.inl ⟨hmem, ?_⟩
    unfold unsubscribe
    rw [if_pos (hany.mpr hmem)]
  · refine Or.inr ⟨hmem, ?_⟩
    unfold unsubscribe
    rw [if_neg fun h => hmem (hany.mp h)]

theorem IsNumbered.fst_unsubscribe (h : s.IsNumbered) (service : String) (id : Nat) :
    (s.unsubscribe service id).1 =
      if id ∈ s.roll service then some ((s.roll service).erase id).length else none := by
  have hcount := length_roll (s.unsubscribe service id).2 service
  rw [h.roll_unsubscribe, if_pos rfl] at hcount
  rcases s.unsubscribe_cases service id with ⟨hmem, hsome⟩ | ⟨hnot, hnone⟩
  · rw [if_pos hmem, hsome, hcount]
  · rw [if_neg hnot, hnone]

theorem IsNumbered.isListed_unsubscribe (h : s.IsNumbered) (hmem : id ∈ s.roll service) :
    (s.unsubscribe service id).2.isListed id = false := by
  obtain ⟨sub, hfound, hid, hservice, _⟩ := h.of_mem_roll hmem
  rw [isListed, subscription?_unsubscribe, hfound, Option.map_some, Option.any_some, if_pos hid,
    Subscription.withdrawn, hservice]
  simp

theorem IsNumbered.fst_stop (h : s.IsNumbered) (hfound : s.subscription? id = some sub)
    (hunlisted : sub.isStopped = true → sub.isListed = false) :
    (s.stop id).1 = (s.unsubscribe sub.service id).1 := by
  unfold stop
  rw [hfound]
  dsimp only
  split
  · next hstopped =>
    rw [h.fst_unsubscribe, if_neg]
    intro hmem
    obtain ⟨sub', hfound', _, _, hlisted⟩ := h.of_mem_roll hmem
    obtain rfl := Option.some.inj (hfound.symm.trans hfound')
    rw [hunlisted hstopped] at hlisted
    cases hlisted
  · rw [(h.stopped id).fst_unsubscribe, h.fst_unsubscribe, roll_alter]
    exact fun _ => ⟨rfl, rfl⟩

/-! ## The lists that are kept -/

/-- What stands under a service with some listed subscriptions: nothing if there are none. -/
def filed? (ids : List Nat) : Option (List Nat) := if ids.isEmpty then none else some ids

def file (lists : Table (List Nat)) (service : String) (ids : List Nat) : Table (List Nat) :=
  if ids.isEmpty then lists.erase service else lists.set service ids

def enroll (lists : Table (List Nat)) (service : String) (id : Nat) : Table (List Nat) :=
  lists.set service ((lists.get? service).getD [] ++ [id])

/-- Takes a subscription off the list of a service, if it is there, and returns how many are left.
-/
def strike (lists : Table (List Nat)) (service : String) (id : Nat) :
    Option Nat × Table (List Nat) :=
  match lists.get? service with
  | none => (none, lists)
  | some ids =>
    if id ∈ ids then (some (ids.erase id).length, file lists service (ids.erase id))
    else (none, lists)

/-- Takes those subscriptions off the list of a service that fail a test. -/
def prune (lists : Table (List Nat)) (service : String) (p : Nat → Bool) : Table (List Nat) :=
  match lists.get? service with
  | none => lists
  | some ids => file lists service (ids.filter p)

def listsAfter (s : State) (lists : Table (List Nat)) : Action → Table (List Nat)
  | .commit service is =>
    if (s.commit service is).1.isEmpty then lists
    else prune lists service fun id => (s.subscription? id).any (·.isHeard)
  | .subscribe id service => enroll lists service id
  | .unsubscribe service id => (strike lists service id).2
  | .stop id =>
    match s.subscription? id with
    | none => lists
    | some sub => if sub.isStopped then lists else (strike lists sub.service id).2
  | .receive _ _ => lists
  | .dropReceiver _ => lists

def listsAfterAll (s : State) (lists : Table (List Nat)) : List Action → Table (List Nat)
  | [] => lists
  | action :: rest => (s.perform action).listsAfterAll (s.listsAfter lists action) rest

/-- The lists hold, under each service that has any, the listed subscriptions of the service. -/
def Enrolled (s : State) (lists : Table (List Nat)) : Prop :=
  ∀ service, lists.get? service = filed? (s.roll service)

variable {lists : Table (List Nat)}

theorem get?_file (lists : Table (List Nat)) (service service' : String) (ids : List Nat) :
    (file lists service ids).get? service' =
      if service = service' then filed? ids else lists.get? service' := by
  unfold file filed?
  split
  · exact Table.get?_erase lists service service'
  · exact Table.get?_set lists service service' ids

theorem Enrolled.cases (h : s.Enrolled lists) (service : String) :
    lists.get? service = none ∧ s.roll service = [] ∨
      lists.get? service = some (s.roll service) := by
  rw [h service, filed?]
  split
  · next hempty => exact Or.inl ⟨rfl, List.isEmpty_iff.mp hempty⟩
  · exact Or.inr rfl

theorem Enrolled.congr (h : s.Enrolled lists) {s' : State}
    (hroll : ∀ service, s'.roll service = s.roll service) : s'.Enrolled lists := by
  intro service
  rw [hroll]
  exact h service

theorem Enrolled.file (h : s.Enrolled lists) {s' : State} {ids : List Nat}
    (hroll : ∀ service', s'.roll service' = if service = service' then ids else s.roll service') :
    s'.Enrolled (file lists service ids) := by
  intro service'
  rw [get?_file, hroll]
  split
  · rfl
  · exact h service'

theorem Enrolled.enroll (h : s.Enrolled lists) (id : Nat) (service : String) :
    (s.subscribe id service).Enrolled (enroll lists service id) := by
  intro service'
  have hroll : (s.subscribe id service).roll service' =
      s.roll service' ++ if service = service' then [id] else [] := by
    simp only [roll, subscribe, List.filter_append, List.map_append, List.filter_singleton,
      Subscription.isTo, Bool.true_and, Bool.cond_eq_ite, beq_iff_eq]
    split <;> rfl
  have hbefore : (lists.get? service).getD [] = s.roll service := by
    rcases h.cases service with ⟨hnone, hroll⟩ | hsome
    · rw [hnone, hroll]
      rfl
    · rw [hsome]
      rfl
  rw [State.enroll, Table.get?_set, hroll, hbefore]
  split
  · next heq =>
    subst heq
    simp [filed?]
  · rw [List.append_nil]
    exact h service'

/-- To strike a number off the list of a service is to unsubscribe it there. -/
theorem Enrolled.strike (h : s.Enrolled lists) (hnumbered : s.IsNumbered) (service : String)
    (id : Nat) :
    (strike lists service id).1 = (s.unsubscribe service id).1 ∧
      (s.unsubscribe service id).2.Enrolled (strike lists service id).2 := by
  have hroll := fun service' => hnumbered.roll_unsubscribe service service' id
  have hunlisted (hout : id ∉ s.roll service) :
      (s.unsubscribe service id).1 = none ∧ (s.unsubscribe service id).2.Enrolled lists := by
    rcases s.unsubscribe_cases service id with ⟨hmem, _⟩ | ⟨_, hnone⟩
    · exact absurd hmem hout
    · rw [hnone]
      exact ⟨rfl, h⟩
  unfold State.strike
  rcases h.cases service with ⟨hnone, hempty⟩ | hsome
  · rw [hnone]
    obtain ⟨hanswer, henrolled⟩ := hunlisted (by rw [hempty]; exact List.not_mem_nil)
    exact ⟨hanswer.symm, henrolled⟩
  · rw [hsome]
    dsimp only
    split
    · next hmem => exact ⟨by rw [hnumbered.fst_unsubscribe, if_pos hmem], h.file hroll⟩
    · next hout =>
      obtain ⟨hanswer, henrolled⟩ := hunlisted hout
      exact ⟨hanswer.symm, henrolled⟩

theorem Enrolled.prune (h : s.Enrolled lists) {s' : State} {p : Nat → Bool}
    (hroll : ∀ service', s'.roll service' =
      if service = service' then (s.roll service).filter p else s.roll service') :
    s'.Enrolled (prune lists service p) := by
  unfold State.prune
  rcases h.cases service with ⟨hnone, hempty⟩ | hsome
  · rw [hnone]
    refine h.congr fun service' => ?_
    rw [hroll]
    split
    · next heq => rw [← heq, hempty, List.filter_nil]
    · rfl
  · rw [hsome]
    exact h.file hroll

theorem IsNumbered.roll_commit (h : s.IsNumbered) (service service' : String)
    (is : List Instance) :
    (s.perform (.commit service is)).roll service' =
      if service = service' ∧ (s.commit service is).1 ≠ [] then
        (s.roll service).filter fun id => (s.subscription? id).any (·.isHeard)
      else s.roll service' := by
  rw [h.roll_perform rfl]
  split
  · next hboth =>
    obtain ⟨rfl, hchanges⟩ := hboth
    refine List.filter_congr fun id hmem => ?_
    obtain ⟨sub, hfound, _, hservice, _⟩ := h.of_mem_roll hmem
    simp [hfound, delists, hservice, hchanges]
  · next hneither =>
    refine List.filter_eq_self.mpr fun id hmem => ?_
    obtain ⟨sub, hfound, _, hservice, _⟩ := h.of_mem_roll hmem
    rw [hfound, Option.any_some, Bool.not_eq_true', delists, hservice]
    by_cases heq : service = service'
    · have hnone : (s.commit service is).1 = [] :=
        Decidable.not_not.mp fun hchanges => hneither ⟨heq, hchanges⟩
      simp [hnone]
    · simp [Ne.symm heq]

theorem Enrolled.perform (h : s.Enrolled lists) (hnumbered : s.IsNumbered)
    (action : Action) : (s.perform action).Enrolled (s.listsAfter lists action) := by
  cases action with
  | commit service is =>
    have hroll := fun service' => hnumbered.roll_commit service service' is
    simp only [listsAfter]
    split
    · next hempty =>
      refine h.congr fun service' => ?_
      rw [hroll, if_neg fun hboth => hboth.2 (List.isEmpty_iff.mp hempty)]
    · next hchanges =>
      have hsome : (s.commit service is).1 ≠ [] := fun hnil => hchanges (List.isEmpty_iff.mpr hnil)
      refine h.prune fun service' => ?_
      rw [hroll]
      simp only [hsome, ne_eq, not_false_eq_true, and_true]
  | subscribe id service => exact h.enroll id service
  | unsubscribe service id => exact (h.strike hnumbered service id).2
  | stop id =>
    simp only [State.perform, State.stop, listsAfter]
    cases s.subscription? id with
    | none => exact h
    | some sub =>
      dsimp only
      split
      · exact h
      · have hmarked : (s.alter id fun sub => { sub with isStopped := true }).Enrolled lists :=
          h.congr fun service => roll_alter s id fun _ => ⟨rfl, rfl⟩
        exact (hmarked.strike (hnumbered.stopped id) sub.service id).2
  | receive id limit =>
    simp only [State.perform, State.receive, listsAfter]
    cases s.subscription? id with
    | none => exact h
    | some sub => exact h.congr fun service => roll_alter s id fun _ => ⟨rfl, rfl⟩
  | dropReceiver id =>
    have hroll (service : String) :
        (s.alter id Subscription.unheard).roll service = s.roll service :=
      roll_alter s id fun _ => ⟨rfl, rfl⟩
    exact h.congr hroll

theorem Enrolled.performAll (h : s.Enrolled lists)
    (hids : ((s.labels ++ subscribed actions).map (·.1)).Nodup) :
    (s.performAll actions).Enrolled (s.listsAfterAll lists actions) := by
  induction actions generalizing s lists with
  | nil => exact h
  | cons action rest ih =>
    have hnumbered : s.IsNumbered := by
      rw [List.map_append] at hids
      exact hids.of_append_left
    refine ih (h.perform hnumbered action) ?_
    rwa [labels_perform, List.append_assoc, ← subscribed_append]

end Roster.State
