import Roster.Proofs.Registry.Rolls

/-!
# Subscriptions are accounted for

A subscription is ended by a stop, by an unsubscription under its own service, and by a commit with
changes to its service after its receiver was dropped. `Ends` says so by what was done since it was
made, and does not look at the subscription. The subscription is listed until the first action that
ends it, and never again (`isListed_performAll`). A handle that is dropped without a stop leaves no
trace in the state.

The main theorem adds up the subscriptions that were not ended, and says what the one who ends a
subscription is told (`accounted`).
-/

namespace Roster.State

variable {s start : State} {id : Nat} {service : String} {sub : Subscription} {action : Action}
  {actions : List Action}

/-! ## What ends a subscription -/

/-- Whether an action ends the subscription of a number to a service that was made in `start`, after
which other actions came. -/
def Ends (start : State) (id : Nat) (service : String) (earlier : List Action) : Action → Prop
  | .commit service' is =>
    service' = service ∧ .dropReceiver id ∈ earlier ∧
      ((start.performAll earlier).commit service is).1 ≠ []
  | .unsubscribe service' id' => service' = service ∧ id' = id
  | .stop id' => id' = id
  | _ => False

def Ended (start : State) (id : Nat) (service : String) (actions : List Action) : Prop :=
  ∃ earlier action later, actions = earlier ++ action :: later ∧
    start.Ends id service earlier action

theorem not_ended_nil : ¬ start.Ended id service [] := by
  rintro ⟨earlier, action, later, heq, _⟩
  exact List.append_ne_nil_of_right_ne_nil earlier (List.cons_ne_nil action later) heq.symm

theorem Ended.append (h : start.Ended id service actions) (more : List Action) :
    start.Ended id service (actions ++ more) := by
  obtain ⟨earlier, action, later, rfl, hends⟩ := h
  exact ⟨earlier, action, later ++ more, by simp, hends⟩

theorem ended_concat :
    start.Ended id service (actions ++ [action]) ↔
      start.Ended id service actions ∨ start.Ends id service actions action := by
  constructor
  · rintro ⟨earlier, action', later, heq, hends⟩
    rcases List.eq_nil_or_concat later with rfl | ⟨later', last, rfl⟩
    · obtain ⟨rfl, hlast⟩ := List.append_inj' heq rfl
      cases hlast
      exact Or.inr hends
    · rw [List.concat_eq_append, ← List.cons_append, ← List.append_assoc] at heq
      obtain ⟨hinit, _⟩ := List.append_inj' heq rfl
      exact Or.inl ⟨earlier, action', later', hinit, hends⟩
  · rintro (hended | hends)
    · exact hended.append [action]
    · exact ⟨actions, action, [], rfl, hends⟩

/-! ## One subscription -/

/-- The subscription of a number to a service, as actions left it since it was made: it is listed
until it is ended. -/
structure Account (start : State) (id : Nat) (service : String) (actions : List Action)
    (sub : Subscription) : Prop where
  found : (start.performAll actions).subscription? id = some sub
  service_eq : sub.service = service
  isHeard_iff : sub.isHeard = true ↔ .dropReceiver id ∉ actions
  isListed_iff : sub.isListed = true ↔ ¬ start.Ended id service actions
  unlisted : sub.isStopped = true → sub.isListed = false

theorem isHeard_effect (s : State) (sub : Subscription) (action : Action) :
    (s.effect action sub).isHeard = true ↔ sub.isHeard = true ∧ action ≠ .dropReceiver sub.id := by
  cases action with
  | commit service is => simp [effect, Subscription.notify_eq]
  | dropReceiver id =>
    simp only [effect]
    split
    · next hid => simp [Subscription.unheard, hid]
    · next hid => simp [Ne.symm hid]
  | subscribe id service => simp [effect]
  | unsubscribe service id =>
    simp only [effect]
    split <;> simp [Subscription.withdrawn]
  | stop id =>
    simp only [effect]
    split <;> simp [Subscription.stopped]
  | receive id limit =>
    simp only [effect]
    split <;> simp [Subscription.drained]

theorem Account.delists_iff (h : start.Account id service actions sub) (action : Action)
    (hlisted : sub.isListed = true) :
    (start.performAll actions).delists sub action = true ↔
      start.Ends id service actions action := by
  have hid : sub.id = id := id_of_subscription? h.found
  cases action with
  | commit service' is =>
    simp only [delists, Ends, Bool.and_eq_true, beq_iff_eq, Bool.not_eq_true', h.service_eq,
      List.isEmpty_eq_false_iff]
    have hheard : sub.isHeard = false ↔ .dropReceiver id ∈ actions := by
      rw [← Bool.not_eq_true, h.isHeard_iff, Decidable.not_not]
    rw [hheard]
    constructor
    · rintro ⟨⟨rfl, hdropped⟩, hchanges⟩
      exact ⟨rfl, hdropped, hchanges⟩
    · rintro ⟨rfl, hdropped, hchanges⟩
      exact ⟨⟨rfl, hdropped⟩, hchanges⟩
  | unsubscribe service' id' =>
    simp only [delists, Ends, Bool.and_eq_true, beq_iff_eq, h.service_eq, hid]
    constructor
    · rintro ⟨rfl, rfl⟩
      exact ⟨rfl, rfl⟩
    · rintro ⟨rfl, rfl⟩
      exact ⟨rfl, rfl⟩
  | stop id' =>
    -- A listed subscription was not stopped before.
    have hstopped : sub.isStopped = false := by
      cases hstopped : sub.isStopped with
      | false => rfl
      | true =>
        rw [h.unlisted hstopped] at hlisted
        cases hlisted
    simp only [delists, Ends, hstopped, hid, Bool.not_false, Bool.and_true, beq_iff_eq]
    exact eq_comm
  | _ => simp [delists, Ends]

theorem Account.concat (h : start.Account id service actions sub)
    (hid : action.given? ≠ some id) :
    start.Account id service (actions ++ [action])
      ((start.performAll actions).effect action sub) where
  found := by
    rw [performAll_append, performAll_cons, performAll_nil, subscription?_perform_of_ne hid,
      h.found, Option.map_some]
  service_eq := by rw [(effect_id_service _ action sub).2, h.service_eq]
  isHeard_iff := by
    rw [isHeard_effect, h.isHeard_iff, List.mem_append, not_or, List.mem_singleton,
      id_of_subscription? h.found]
    exact and_congr_right fun _ => not_congr eq_comm
  isListed_iff := by
    rw [isListed_effect, Bool.and_eq_true, Bool.not_eq_true', ended_concat, not_or,
      ← h.isListed_iff]
    refine and_congr_right fun hlisted => ?_
    rw [← h.delists_iff action hlisted, Bool.not_eq_true]
  unlisted := isListed_effect_of_isStopped h.unlisted _ action

theorem Account.append (h : start.Account id service actions sub) {more : List Action}
    (hid : ∀ action ∈ more, action.given? ≠ some id) :
    ∃ sub', start.Account id service (actions ++ more) sub' := by
  induction more generalizing actions sub with
  | nil => exact ⟨sub, by rwa [List.append_nil]⟩
  | cons action rest ih =>
    obtain ⟨haction, hrest⟩ := List.forall_mem_cons.mp hid
    obtain ⟨sub', h'⟩ := ih (h.concat haction) hrest
    exact ⟨sub', by rwa [List.append_assoc, List.singleton_append] at h'⟩

theorem account_opening (hfree : s.subscription? id = none) (service : String) :
    (s.subscribe id service).Account id service [] (s.opening id service) where
  found := by
    rw [performAll_nil, subscription?_subscribe, hfree, if_pos rfl]
    rfl
  service_eq := rfl
  isHeard_iff := ⟨fun _ => List.not_mem_nil, fun _ => rfl⟩
  isListed_iff := ⟨fun _ => not_ended_nil, fun _ => rfl⟩
  unlisted := nofun

/-- A new subscription is listed until the first action that ends it. -/
theorem isListed_performAll (hfree : s.subscription? id = none) (service : String)
    {actions : List Action} (hid : ∀ action ∈ actions, action.given? ≠ some id) :
    ((s.subscribe id service).performAll actions).isListed id = true ↔
      ¬ (s.subscribe id service).Ended id service actions := by
  obtain ⟨sub, h⟩ := (account_opening hfree service).append hid
  rw [List.nil_append] at h
  rw [isListed, h.found, Option.any_some, h.isListed_iff]

/-! ## Whole runs -/

theorem mem_subscribed_of_given? (hmem : action ∈ actions) (hgiven : action.given? = some id) :
    id ∈ (subscribed actions).map (·.1) := by
  cases action with
  | subscribe id' service =>
    cases hgiven
    exact List.mem_map.mpr ⟨(id, service), List.mem_filterMap.mpr ⟨_, hmem, rfl⟩, rfl⟩
  | _ => cases hgiven

theorem given?_ne_of_nodup {before later : List Action}
    (hids : ((subscribed (before ++ .subscribe id service :: later)).map (·.1)).Nodup) :
    (∀ action ∈ before, action.given? ≠ some id) ∧ ∀ action ∈ later, action.given? ≠ some id := by
  rw [subscribed_append, List.map_append] at hids
  have hcons : subscribed (.subscribe id service :: later) =
      (id, service) :: subscribed later := rfl
  rw [hcons, List.map_cons] at hids
  constructor
  · intro action hmem hgiven
    refine (List.nodup_append.mp hids).2.2 id (mem_subscribed_of_given? hmem hgiven) id ?_ rfl
    exact List.mem_cons_self
  · intro action hmem hgiven
    refine (List.nodup_cons.mp hids.of_append_right).1 ?_
    exact mem_subscribed_of_given? hmem hgiven

/-- The subscription that one of some actions makes, as the others left it. -/
theorem found_of_subscribed {buffer : Nat} (hids : ((subscribed actions).map (·.1)).Nodup)
    (hmem : (id, service) ∈ subscribed actions) :
    ∃ sub, ((new buffer).performAll actions).subscription? id = some sub ∧
      sub.service = service ∧ (sub.isStopped = true → sub.isListed = false) := by
  obtain ⟨action, haction, hmakes⟩ := List.mem_filterMap.mp hmem
  obtain rfl : action = .subscribe id service := by
    cases action with
    | subscribe id' service' =>
      cases hmakes
      rfl
    | _ => cases hmakes
  obtain ⟨before, later, rfl⟩ := List.append_of_mem haction
  obtain ⟨hbefore, hlater⟩ := given?_ne_of_nodup hids
  have hfree : ((new buffer).performAll before).subscription? id = none :=
    subscription?_performAll_eq_none rfl hbefore
  obtain ⟨sub, haccount⟩ := (account_opening hfree service).append hlater
  rw [performAll_append]
  exact ⟨sub, haccount.found, haccount.service_eq, haccount.unlisted⟩

/-- Take any run from the state without subscriptions in which no number is given twice. A
subscription is listed as long as no action ended it, and the action that takes it off the list is
the first one that ends it: a stop, an unsubscription under its own service, or a commit with
changes to its service after its receiver was dropped. A service's watchers are its subscriptions
that are still listed; the lists that are kept count the same, and none is empty. An unsubscription
returns how many watchers it leaves exactly if it takes a subscription off the list, and otherwise
it returns nothing and changes nothing; a stop answers like an unsubscription under the
subscription's own service. -/
theorem accounted (buffer : Nat) (actions : List Action)
    (hids : ((subscribed actions).map (·.1)).Nodup) :
    let s := (new buffer).performAll actions
    let lists := (new buffer).listsAfterAll Table.empty actions
    (∀ before id service later, actions = before ++ .subscribe id service :: later →
      let start := (new buffer).performAll (before ++ [.subscribe id service])
      (s.isListed id = true ↔ ¬ start.Ended id service later) ∧
      ∀ earlier action rest, later = earlier ++ action :: rest →
        ((start.performAll earlier).isListed id = true ∧
            (start.performAll (earlier ++ [action])).isListed id = false ↔
          ¬ start.Ended id service earlier ∧ start.Ends id service earlier action)) ∧
    (∀ service, s.watcherCount service =
        ((subscribed actions).filter fun l => l.2 == service && s.isListed l.1).length ∧
      ((lists.get? service).map List.length).getD 0 = s.watcherCount service ∧
      lists.get? service ≠ some []) ∧
    ∀ service id,
      ((id, service) ∈ subscribed actions ∧ s.isListed id = true →
        (s.unsubscribe service id).1 = some ((s.unsubscribe service id).2.watcherCount service) ∧
          (s.unsubscribe service id).2.isListed id = false) ∧
      (¬ ((id, service) ∈ subscribed actions ∧ s.isListed id = true) →
        s.unsubscribe service id = (none, s)) ∧
      (strike lists service id).1 = (s.unsubscribe service id).1 ∧
      ((id, service) ∈ subscribed actions → (s.stop id).1 = (s.unsubscribe service id).1) := by
  intro s lists
  have hlabels : s.labels = subscribed actions := labels_new buffer actions
  have hnumbered : s.IsNumbered := by
    unfold IsNumbered
    rw [hlabels]
    exact hids
  have hfiled : s.Enrolled lists := by
    refine Enrolled.performAll (fun service => rfl) ?_
    exact hids
  refine ⟨?one, fun service => ⟨?count, ?lists⟩,
    fun service id => ⟨?found, ?missing, ?struck, ?stop⟩⟩
  case one =>
    rintro before id service later rfl start
    obtain ⟨hbefore, hlater⟩ := given?_ne_of_nodup hids
    have hfree : ((new buffer).performAll before).subscription? id = none :=
      subscription?_performAll_eq_none rfl hbefore
    have hstart : start = ((new buffer).performAll before).subscribe id service :=
      performAll_append _ before _
    have hlisted {part : List Action} (hpart : ∀ action ∈ part, action.given? ≠ some id) :
        (start.performAll part).isListed id = true ↔ ¬ start.Ended id service part := by
      rw [hstart]
      exact isListed_performAll hfree service hpart
    have hs : s = start.performAll later := by
      rw [hstart]
      exact performAll_append _ before _
    refine ⟨hs ▸ hlisted hlater, ?_⟩
    rintro earlier action rest rfl
    have hearlier : ∀ a ∈ earlier, a.given? ≠ some id := fun a ha =>
      hlater a (List.mem_append_left _ ha)
    have hnext : ∀ a ∈ earlier ++ [action], a.given? ≠ some id := by
      intro a ha
      rcases List.mem_append.mp ha with ha | ha
      · exact hearlier a ha
      · refine hlater a (List.mem_append_right _ ?_)
        rw [List.mem_singleton.mp ha]
        exact List.mem_cons_self
    rw [hlisted hearlier, ← Bool.not_eq_true, hlisted hnext, ended_concat, Classical.not_not]
    constructor
    · rintro ⟨hnot, hended | hends⟩
      · exact absurd hended hnot
      · exact ⟨hnot, hends⟩
    · rintro ⟨hnot, hends⟩
      exact ⟨hnot, Or.inr hends⟩
  case count =>
    rw [← length_roll, hnumbered.roll_eq, List.length_map, hlabels]
  case lists =>
    rw [← length_roll]
    rcases hfiled.cases service with ⟨hnone, hempty⟩ | hsome
    · rw [hnone, hempty]
      exact ⟨rfl, nofun⟩
    · refine ⟨by rw [hsome]; rfl, fun hnil => ?_⟩
      rw [hfiled service, filed?] at hnil
      split at hnil
      · cases hnil
      · next hsome =>
        rw [Option.some.inj hnil] at hsome
        exact hsome rfl
  case found =>
    rw [← hlabels, ← hnumbered.mem_roll_iff]
    intro hmem
    rcases s.unsubscribe_cases service id with ⟨_, hsome⟩ | ⟨hout, _⟩
    · exact ⟨hsome, hnumbered.isListed_unsubscribe hmem⟩
    · exact absurd hmem hout
  case missing =>
    rw [← hlabels, ← hnumbered.mem_roll_iff]
    intro hout
    rcases s.unsubscribe_cases service id with ⟨hmem, _⟩ | ⟨_, hnone⟩
    · exact absurd hmem hout
    · exact hnone
  case struck => exact (hfiled.strike hnumbered service id).1
  case stop =>
    intro hmem
    obtain ⟨sub, hfound, rfl, hunlisted⟩ := found_of_subscribed hids hmem
    exact hnumbered.fst_stop hfound hunlisted

/-- The receiver of the first subscription is dropped. A commit that changes nothing leaves it
listed, and so does an unsubscription under another service; the next commit with changes takes it
off the list, and its stop, which comes later, finds nothing. -/
theorem accounted_pruned :
    let actions : List Action :=
      [.subscribe 0 "users", .subscribe 1 "users", .dropReceiver 0, .unsubscribe "orders" 0,
        .commit "users" []]
    let changed : Action := .commit "users" [⟨"users", "10.0.0.1:80"⟩]
    let s := (new 4).performAll (actions ++ [changed])
    ((new 4).performAll actions).isListed 0 = true ∧ s.isListed 0 = false ∧
      s.watcherCount "users" = 1 ∧ (s.stop 0).1 = none ∧ (s.stop 1).1 = some 0 := by
  intro actions changed s
  have hbefore : ((new 4).performAll actions).isListed 0 = true := by decide
  obtain ⟨honeBefore, _⟩ := accounted 4 actions (by decide)
  have hnot := (honeBefore [] 0 "users" actions.tail rfl).1.mp hbefore
  obtain ⟨hone, hcount, htold⟩ := accounted 4 (actions ++ [changed]) (by decide)
  obtain ⟨_, hremoved⟩ := hone [] 0 "users" (actions.tail ++ [changed]) rfl
  have hends : ((new 4).subscribe 0 "users").Ends 0 "users" actions.tail changed :=
    ⟨rfl, by decide, by decide⟩
  obtain ⟨_, hgone⟩ := (hremoved actions.tail changed [] rfl).mpr ⟨hnot, hends⟩
  obtain ⟨_, hmissing, _, hfirst⟩ := htold "users" 0
  obtain ⟨hfound, _, _, hsecond⟩ := htold "users" 1
  have hnone : (s.unsubscribe "users" 0).1 = none :=
    congrArg Prod.fst (hmissing fun hlisted => Bool.false_ne_true (hgone.symm.trans hlisted.2))
  have hlast : (s.unsubscribe "users" 1).1 =
      some ((s.unsubscribe "users" 1).2.watcherCount "users") :=
    (hfound ⟨by decide, by decide⟩).1
  have hleft : (s.unsubscribe "users" 1).2.watcherCount "users" = 0 := by decide
  refine ⟨hbefore, hgone, (hcount "users").1.trans (by decide), ?_, ?_⟩
  · exact (hfirst (by decide)).trans hnone
  · rw [hsecond (by decide), hlast, hleft]

end Roster.State
