import Roster.Proofs.Difference
import Roster.Proofs.Registry.History

/-!
# What a subscription is offered

The stream of a subscription (`offered`) begins with the arrival of every present member and goes on
with the changes of every commit to its service while it is listed. Its queue holds a part of the
stream. `Follows` is what every action preserves (`Follows.perform`): addresses take turns in the
stream, and the stream leads to the present members as long as the subscription is listed. The
step that takes it off the list is the last one after which it does (`tracks_perform`).
-/

namespace Roster.State

/-! ## Streams -/

/-- Whether changes of a service are offered to the subscription of a number. -/
def isSubscribed (s : State) (id : Nat) (service : String) : Bool :=
  (s.subscription? id).any (·.isTo service)

/-- What an action offers to the subscription of a number, whether or not there is room. -/
def offeredBy (s : State) (id : Nat) : Action → List Change
  | .subscribe id' service => if id' = id then (s.opening id service).queue else []
  | .commit service is => if s.isSubscribed id service then (s.commit service is).1 else []
  | _ => []

/-- What actions in turn offer to the subscription of a number. -/
def offered (id : Nat) (s : State) : List Action → List Change
  | [] => []
  | action :: rest => s.offeredBy id action ++ offered id (s.perform action) rest

theorem offered_append (id : Nat) (s : State) (as bs : List Action) :
    s.offered id (as ++ bs) = s.offered id as ++ (s.performAll as).offered id bs := by
  induction as generalizing s with
  | nil => rfl
  | cons action rest ih =>
    rw [List.cons_append, offered, ih, offered, performAll_cons, List.append_assoc]

theorem isSubscribed_iff {s : State} {id : Nat} {sub : Subscription}
    (h : s.subscription? id = some sub) (service : String) :
    s.isSubscribed id service = true ↔ sub.isListed = true ∧ sub.service = service := by
  rw [isSubscribed, h, Option.any_some, Subscription.isTo, Bool.and_eq_true, beq_iff_eq]

/-! ## The queue -/

theorem queue_effect_sublist {s : State} {id : Nat} {sub : Subscription}
    (h : s.subscription? id = some sub) (action : Action) :
    (s.effect action sub).queue.Sublist (sub.queue ++ s.offeredBy id action) := by
  have hself : sub.queue.Sublist (sub.queue ++ s.offeredBy id action) :=
    List.sublist_append_left _ _
  cases action with
  | commit service is =>
    show (sub.notify service _).queue.Sublist _
    rw [Subscription.notify_eq]
    dsimp only
    split
    · next hto =>
      rw [Bool.and_eq_true] at hto
      rw [Subscription.queue_foldl_offer, offeredBy, isSubscribed, h, Option.any_some, if_pos hto.1]
      exact (List.take_sublist _ _).append_left _
    · exact hself
  | subscribe id' service => exact hself
  | unsubscribe service id' => simp only [effect]; split <;> exact hself
  | stop id' => simp only [effect]; split <;> exact hself
  | receive id' limit =>
    simp only [effect]
    split
    · exact (List.drop_sublist _ _).trans hself
    · exact hself
  | dropReceiver id' =>
    simp only [effect]
    split
    · exact List.nil_sublist _
    · exact hself

/-! ## What every action preserves -/

/-- The stream of the subscription of a number up to now. -/
structure Follows (s : State) (id : Nat) (service : String) (stream : List Change) : Prop where
  /-- The subscription is there, and what waits for it is a part of the stream. -/
  queued : ∃ sub, s.subscription? id = some sub ∧ sub.service = service ∧ sub.queue.Sublist stream
  turns : ∀ a, TakesTurns (kindsOf a stream)
  /-- While changes are offered, the stream leads to the members. -/
  tracks : s.isSubscribed id service = true → Tracks stream (s.instances service)

variable {s : State} {id : Nat} {service : String} {stream : List Change} {action : Action}

/-- Whatever is done while a subscription is listed, its stream goes on to lead to the members. -/
theorem tracks_perform (htracks : Tracks stream (s.instances service))
    (hsubscribed : s.isSubscribed id service = true) (hid : action.given? ≠ some id) :
    Tracks (stream ++ s.offeredBy id action) ((s.perform action).instances service) := by
  rw [instances_perform]
  cases action with
  | commit service' is =>
    dsimp only [offeredBy]
    by_cases hservice : service' = service
    · subst hservice
      rw [if_pos rfl, if_pos hsubscribed]
      exact htracks.append_difference (distinct is)
    · rw [if_neg hservice, if_neg, List.append_nil]
      · exact htracks
      · intro hother
        obtain ⟨sub, hsub, hto⟩ := (Option.any_eq_true _ _).mp hsubscribed
        have hthis := (isSubscribed_iff hsub service).mp hsubscribed
        exact hservice (((isSubscribed_iff hsub service').mp hother).2.symm.trans hthis.2)
  | subscribe id' service' =>
    dsimp only [offeredBy]
    rw [if_neg fun h => hid (congrArg some h), List.append_nil]
    exact htracks
  | _ =>
    dsimp only [offeredBy]
    rw [List.append_nil]
    exact htracks

theorem Follows.offeredBy_eq_nil (h : s.Follows id service stream)
    (hsubscribed : s.isSubscribed id service = false) (hid : action.given? ≠ some id) :
    s.offeredBy id action = [] := by
  obtain ⟨sub, hsub, hservice, _⟩ := h.queued
  cases action with
  | commit service' is =>
    refine if_neg fun hother => ?_
    have hlisted := ((isSubscribed_iff hsub service').mp hother).1
    rw [(isSubscribed_iff hsub service).mpr ⟨hlisted, hservice⟩] at hsubscribed
    cases hsubscribed
  | subscribe id' service' => exact if_neg fun h => hid (congrArg some h)
  | _ => rfl

theorem Follows.isSubscribed_of_perform (h : s.Follows id service stream)
    (hid : action.given? ≠ some id) (hnext : (s.perform action).isSubscribed id service = true) :
    s.isSubscribed id service = true := by
  obtain ⟨sub, hsub, hservice, _⟩ := h.queued
  have hsub' : (s.perform action).subscription? id = some (s.effect action sub) := by
    rw [subscription?_perform_of_ne hid, hsub, Option.map_some]
  have hlisted := ((isSubscribed_iff hsub' service).mp hnext).1
  exact (isSubscribed_iff hsub service).mpr ⟨isListed_of_effect hlisted, hservice⟩

theorem Follows.perform (h : s.Follows id service stream) (hid : action.given? ≠ some id) :
    (s.perform action).Follows id service (stream ++ s.offeredBy id action) where
  queued := by
    obtain ⟨sub, hsub, hservice, hqueue⟩ := h.queued
    refine ⟨s.effect action sub, ?_, ?_, ?_⟩
    · rw [subscription?_perform_of_ne hid, hsub, Option.map_some]
    · rw [(effect_id_service s action sub).2, hservice]
    · exact (queue_effect_sublist hsub action).trans (hqueue.append_right _)
  turns a := by
    cases hsubscribed : s.isSubscribed id service with
    | true => exact (tracks_perform (h.tracks hsubscribed) hsubscribed hid a).1
    | false =>
      rw [h.offeredBy_eq_nil hsubscribed hid, List.append_nil]
      exact h.turns a
  tracks hnext := by
    have hsubscribed := h.isSubscribed_of_perform hid hnext
    exact tracks_perform (h.tracks hsubscribed) hsubscribed hid

theorem Follows.performAll (h : s.Follows id service stream) {actions : List Action}
    (hid : ∀ action ∈ actions, action.given? ≠ some id) :
    (s.performAll actions).Follows id service (stream ++ s.offered id actions) := by
  induction actions generalizing s stream with
  | nil =>
    rw [offered, List.append_nil]
    exact h
  | cons action rest ih =>
    obtain ⟨haction, hrest⟩ := List.forall_mem_cons.mp hid
    rw [offered, ← List.append_assoc, performAll_cons]
    exact ih (h.perform haction) hrest

/-- The action that takes a subscription off the list still leaves the stream at the members. -/
theorem Follows.tracks_concat (h : s.Follows id service stream) {actions : List Action}
    (hid : ∀ a ∈ actions ++ [action], a.given? ≠ some id)
    (hsubscribed : (s.performAll actions).isSubscribed id service = true) :
    Tracks (stream ++ s.offered id (actions ++ [action]))
      ((s.performAll (actions ++ [action])).instances service) := by
  obtain ⟨hactions, haction⟩ := List.forall_mem_append.mp hid
  rw [offered_append, performAll_append, offered, offered, List.append_nil, ← List.append_assoc]
  exact tracks_perform ((h.performAll hactions).tracks hsubscribed) hsubscribed
    (haction action (List.mem_singleton_self action))

theorem follows_subscribe (service : String) (hdistinct : s.HasDistinct)
    (hfree : s.subscription? id = none) :
    (s.perform (.subscribe id service)).Follows id service
      (s.offeredBy id (.subscribe id service)) := by
  have htracks := tracks_map_joined (hdistinct service)
  rw [offeredBy, if_pos rfl]
  refine ⟨⟨s.opening id service, ?_, rfl, List.Sublist.refl _⟩, fun a => (htracks a).1, fun _ => ?_⟩
  · rw [subscription?_perform, hfree, made?, if_pos rfl]
    rfl
  · rw [instances_perform]
    exact htracks

/-! ## The whole stream -/

/-- Whatever is done to a registry's state before and after a subscription under a number of its
own, the subscription is made with the arrival of every present member in its queue, and this is how
its stream begins. Every address takes turns in the stream, beginning with an arrival. Up to and
including the action that takes the subscription off the list, the stream leads from no addresses to
those of the present members, and no two of these share an address. What waits for the receiver is
always a part of the stream. -/
theorem stream_exact (buffer : Nat) (before later : List Action) (id : Nat) (service : String)
    (hid : ∀ action ∈ before ++ later, action.given? ≠ some id) :
    let start := (new buffer).performAll before
    let opened := start.perform (.subscribe id service)
    let replay := (start.instances service).map Change.joined
    let now := start.performAll (.subscribe id service :: later)
    let stream := start.offered id (.subscribe id service :: later)
    ((opened.subscription? id).map (·.queue) = some replay ∧
      stream = replay ++ opened.offered id later) ∧
    (∀ a, TakesTurns (kindsOf a stream)) ∧
    ((start.performAll (.subscribe id service :: later.dropLast)).isSubscribed id service = true →
      foldAddresses stream = addressSet (now.instances service)) ∧
    ((now.instances service).map (·.address)).Nodup ∧
    ∃ sub, now.subscription? id = some sub ∧ sub.service = service ∧ sub.queue.Sublist stream := by
  intro start opened replay now stream
  obtain ⟨hbefore, hlater⟩ := List.forall_mem_append.mp hid
  have hdistinct : start.HasDistinct := (hasDistinct_new buffer).performAll before
  have hfree : start.subscription? id = none := subscription?_performAll_eq_none rfl hbefore
  have hfirst : start.offeredBy id (.subscribe id service) = replay := if_pos rfl
  have hopened := follows_subscribe service hdistinct hfree
  have hfollows : now.Follows id service stream := hopened.performAll hlater
  refine ⟨⟨?replayed, congrArg (· ++ _) hfirst⟩, hfollows.turns, fun hsubscribed => ?leads,
    ?distinct, hfollows.queued⟩
  case replayed =>
    rw [subscription?_perform, hfree, made?, if_pos rfl]
    rfl
  case leads =>
    refine Tracks.foldAddresses_eq ?_
    rcases List.eq_nil_or_concat' later with rfl | ⟨rest, action, rfl⟩
    · exact hfollows.tracks hsubscribed
    · rw [List.dropLast_concat] at hsubscribed
      exact hopened.tracks_concat hlater hsubscribed
  case distinct => exact (hdistinct.performAll _) service

/-- A member moves to another address, which is listed twice, and the subscription is withdrawn. -/
theorem stream_exact_moved :
    let before : List Action := [.commit "users" [⟨"users", "a:1"⟩]]
    let later : List Action :=
      [.commit "users" [⟨"users", "b:1"⟩, ⟨"other", "b:1"⟩], .unsubscribe "users" 0]
    let start := (new 1).performAll before
    (∀ action ∈ before ++ later, action.given? ≠ some 0) ∧
    ((start.perform (.subscribe 0 "users")).subscription? 0).map (·.queue) =
      some [.joined ⟨"users", "a:1"⟩] ∧
    foldAddresses (start.offered 0 (.subscribe 0 "users" :: later)) =
      addressSet ((start.performAll (.subscribe 0 "users" :: later)).instances "users") := by
  intro before later start
  have hid : ∀ action ∈ before ++ later, action.given? ≠ some 0 := by decide
  obtain ⟨⟨hreplayed, _⟩, _, hleads, _⟩ := stream_exact 1 before later 0 "users" hid
  exact ⟨hid, hreplayed, hleads (by decide +kernel)⟩

end Roster.State
