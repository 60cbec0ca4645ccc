import Roster.Proofs.Registry.Stream

/-!
# What reaches a queue of bounded length

Each change that is offered to a subscription is noted with the number of changes that wait at that
moment (`offers`). What gets into the queue are the changes for which there was room, in their order
(`queue_foldl_offer_eq`). Every action keeps the balance (`queue_effect_eq`): what waited, and what
got in, is what leaves the queue and what waits then. Over a whole run that is the law of delivery
(`delivery_exact`).
-/

namespace Roster

namespace Subscription

variable {sub : Subscription} {cs : List Change}

/-- Changes that are offered in turn, each with the number of those that wait when it comes. -/
def offers : List Change → Subscription → List (Change × Nat)
  | [], _ => []
  | c :: rest, sub => (c, sub.queue.length) :: offers rest (sub.offer c)

/-- The changes that came when fewer waited than there is room for. -/
def admitted (capacity : Nat) (os : List (Change × Nat)) : List Change :=
  (os.filter (·.2 < capacity)).map (·.1)

theorem admitted_append (capacity : Nat) (os ps : List (Change × Nat)) :
    admitted capacity (os ++ ps) = admitted capacity os ++ admitted capacity ps := by
  simp [admitted]

theorem admitted_eq_map {capacity : Nat} {os : List (Change × Nat)}
    (h : ∀ o ∈ os, o.2 < capacity) : admitted capacity os = os.map (·.1) := by
  rw [admitted, List.filter_eq_self.mpr]
  simpa using h

theorem map_fst_offers (cs : List Change) (sub : Subscription) :
    (offers cs sub).map (·.1) = cs := by
  induction cs generalizing sub with
  | nil => rfl
  | cons c rest ih => simp [offers, ih]

/-- What gets into the queue are the changes for which there is room, in their order. -/
theorem queue_foldl_offer_eq (cs : List Change) (sub : Subscription) :
    (cs.foldl offer sub).queue = sub.queue ++ admitted sub.capacity (offers cs sub) := by
  induction cs generalizing sub with
  | nil => simp [offers, admitted]
  | cons c rest ih =>
    have hcapacity : (sub.offer c).capacity = sub.capacity := by unfold offer; split <;> rfl
    rw [List.foldl_cons, ih, hcapacity, offers, offer]
    split
    · next hroom => simp [admitted, hroom]
    · next hfull => simp [admitted, hfull]

theorem admitted_offers_of_fits (h : sub.queue.length + cs.length ≤ sub.capacity) :
    ∀ o ∈ offers cs sub, o.2 < sub.capacity := by
  induction cs generalizing sub with
  | nil => exact nofun
  | cons c rest ih =>
    rw [List.length_cons] at h
    have hroom : sub.queue.length < sub.capacity := by omega
    have hoffer : sub.offer c = { sub with queue := sub.queue ++ [c] } := if_pos hroom
    rw [offers, hoffer]
    refine List.forall_mem_cons.mpr ⟨hroom, ih ?_⟩
    simp
    omega

end Subscription

namespace State

open Subscription

/-! ## What comes and goes -/

/-- What actions in turn emit, where what an action emits depends on the state. -/
def collect {β : Type} (emit : State → Action → List β) (s : State) : List Action → List β
  | [] => []
  | action :: rest => emit s action ++ collect emit (s.perform action) rest

def vacant (s : State) (id : Nat) (service : String) : Subscription :=
  { s.opening id service with queue := [] }

/-- Whether changes of a service get to the receiver of the subscription of a number. -/
def reaches (s : State) (id : Nat) (service : String) : Bool :=
  (s.subscription? id).any fun sub => sub.isTo service && sub.isHeard

/-- What an action says to the receiver of a number: the present members when it subscribes, and the
changes of its service while changes get to it. -/
def heardBy (id : Nat) (s : State) : Action → List Change
  | .subscribe id' service =>
    if id' = id then (s.instances service).map Change.joined else []
  | .commit service is => if s.reaches id service then (s.commit service is).1 else []
  | _ => []

/-- The same, with the number of changes that wait when each of them comes. -/
def offersBy (id : Nat) (s : State) : Action → List (Change × Nat)
  | .subscribe id' service =>
    if id' = id then offers ((s.instances service).map Change.joined) (s.vacant id service) else []
  | .commit service is =>
    match s.subscription? id with
    | some sub =>
      if sub.isTo service && sub.isHeard then offers (s.commit service is).1 sub else []
    | none => []
  | _ => []

/-- What an action takes off the queue of a number: its receiver gets it, or it is lost with the
receiver. -/
def leavingBy (id : Nat) (s : State) : Action → List Change
  | .receive id' limit =>
    if id' = id then ((s.receive id limit).map (·.1.changes)).getD [] else []
  | .dropReceiver id' => if id' = id then ((s.subscription? id).map (·.queue)).getD [] else []
  | _ => []

theorem map_fst_offersBy (s : State) (id : Nat) (action : Action) :
    (s.offersBy id action).map (·.1) = s.heardBy id action := by
  cases action with
  | subscribe id' service =>
    simp only [offersBy, heardBy]
    split
    · exact map_fst_offers _ _
    · rfl
  | commit service is =>
    cases h : s.subscription? id with
    | none => simp [offersBy, heardBy, reaches, h]
    | some sub =>
      simp only [offersBy, heardBy, reaches, h, Option.any_some]
      split
      · exact map_fst_offers _ _
      · rfl
  | _ => rfl

theorem map_fst_collect_offersBy (s : State) (id : Nat) (actions : List Action) :
    (s.collect (offersBy id) actions).map (·.1) = s.collect (heardBy id) actions := by
  induction actions generalizing s with
  | nil => rfl
  | cons action rest ih => simp [collect, map_fst_offersBy, ih]

/-! ## The replay -/

theorem fits_vacant (s : State) (id : Nat) (service : String) :
    ∀ o ∈ offers ((s.instances service).map Change.joined) (s.vacant id service),
      o.2 < s.capacityFor service := by
  have hfits : (s.vacant id service).queue.length +
      ((s.instances service).map Change.joined).length ≤ (s.vacant id service).capacity := by
    simp [vacant, opening, capacityFor]
  exact admitted_offers_of_fits hfits

/-- A subscription is made as if each present member were offered to its empty queue in turn. -/
theorem opening_eq_foldl_offer (s : State) (id : Nat) (service : String) :
    s.opening id service =
      ((s.instances service).map Change.joined).foldl offer (s.vacant id service) := by
  have hall : ((s.instances service).map Change.joined).length ≤ s.capacityFor service := by
    simp [capacityFor]
  rw [foldl_offer_eq, queue_foldl_offer]
  simp only [vacant, opening, List.length_nil, Nat.sub_zero, List.nil_append]
  rw [List.take_of_length_le hall]

theorem queue_opening_eq (s : State) (id : Nat) (service : String) :
    (s.opening id service).queue =
      admitted (s.capacityFor service) (s.offersBy id (.subscribe id service)) := by
  rw [opening_eq_foldl_offer, queue_foldl_offer_eq, offersBy, if_pos rfl]
  rfl

/-! ## The balance -/

section Balance

variable {s : State} {id : Nat} {service : String} {sub : Subscription} {action : Action}

/-- What waited and what gets in is what leaves and what waits then. -/
theorem queue_effect_eq (h : s.subscription? id = some sub) (hid : action.given? ≠ some id) :
    sub.queue ++ admitted sub.capacity (s.offersBy id action) =
      s.leavingBy id action ++ (s.effect action sub).queue := by
  have hsub : sub.id = id := id_of_subscription? h
  cases action with
  | commit service is =>
    simp only [offersBy, leavingBy, effect, h, List.nil_append]
    rw [Subscription.notify_eq]
    dsimp only
    split
    · exact (queue_foldl_offer_eq _ _).symm
    · simp [admitted]
  | subscribe id' service =>
    have hne : id' ≠ id := fun heq => hid (congrArg some heq)
    simp [offersBy, leavingBy, effect, hne, admitted]
  | unsubscribe service id' =>
    simp only [offersBy, leavingBy, effect]
    split <;> simp [admitted, withdrawn]
  | stop id' =>
    simp only [offersBy, leavingBy, effect]
    split <;> simp [admitted, stopped]
  | receive id' limit =>
    simp only [offersBy, leavingBy, effect, hsub]
    by_cases heq : id' = id
    · subst heq
      simp [receive, h, admitted, drained]
    · simp [heq, Ne.symm heq, admitted]
  | dropReceiver id' =>
    simp only [offersBy, leavingBy, effect, hsub]
    by_cases heq : id' = id
    · subst heq
      simp [h, admitted, unheard]
    · simp [heq, Ne.symm heq, admitted]

theorem capacity_effect (s : State) (action : Action) (sub : Subscription) :
    (s.effect action sub).capacity = sub.capacity := by
  refine effect_cases (motive := fun sub' => sub'.capacity = sub.capacity) s action rfl
    (fun service cs => ?_) (fun _ => rfl) rfl (fun _ => rfl) rfl
  rw [Subscription.notify_eq]

theorem length_queue_effect_le (h : sub.queue.length ≤ sub.capacity) (s : State)
    (action : Action) : (s.effect action sub).queue.length ≤ sub.capacity := by
  refine effect_cases (motive := fun sub' => sub'.queue.length ≤ sub.capacity) s action h
    (fun service cs => ?_) (fun _ => h) h (fun limit => ?_) (Nat.zero_le _)
  · rw [Subscription.notify_eq]
    dsimp only
    split
    · exact length_queue_foldl_offer_le h cs
    · exact h
  · simp only [drained, List.length_drop]
    omega

theorem isListed_effect_of_isStopped (h : sub.isStopped = true → sub.isListed = false) (s : State)
    (action : Action) :
    (s.effect action sub).isStopped = true → (s.effect action sub).isListed = false := by
  refine effect_cases
    (motive := fun sub' => sub'.isStopped = true → sub'.isListed = false) s action h
    (fun service cs hstopped => ?_) (fun service hstopped => ?_) (fun _ => ?_) (fun _ => h) h
  · rw [Subscription.notify_eq] at hstopped ⊢
    simp [h hstopped]
  · simp [withdrawn, h hstopped]
  · cases hold : sub.isStopped <;> simp [stopped, hold, h]

/-- The subscription of a number to a service, whose queue is no longer than its capacity, and which
is off the list once it was stopped. -/
structure Fits (s : State) (id : Nat) (service : String) (sub : Subscription) : Prop where
  found : s.subscription? id = some sub
  service_eq : sub.service = service
  le_capacity : sub.queue.length ≤ sub.capacity
  ended : sub.isStopped = true → sub.isListed = false

theorem Fits.perform (h : s.Fits id service sub) (hid : action.given? ≠ some id) :
    (s.perform action).Fits id service (s.effect action sub) where
  found := by rw [subscription?_perform_of_ne hid, h.found, Option.map_some]
  service_eq := by rw [(effect_id_service s action sub).2, h.service_eq]
  le_capacity := by
    rw [capacity_effect]
    exact length_queue_effect_le h.le_capacity s action
  ended := isListed_effect_of_isStopped h.ended s action

theorem Fits.performAll (h : s.Fits id service sub) {actions : List Action}
    (hid : ∀ action ∈ actions, action.given? ≠ some id) :
    ∃ sub', (s.performAll actions).Fits id service sub' ∧ sub'.capacity = sub.capacity ∧
      sub.queue ++ admitted sub.capacity (s.collect (offersBy id) actions) =
        s.collect (leavingBy id) actions ++ sub'.queue := by
  induction actions generalizing s sub with
  | nil => exact ⟨sub, h, rfl, by simp [collect, admitted]⟩
  | cons action rest ih =>
    obtain ⟨haction, hrest⟩ := List.forall_mem_cons.mp hid
    obtain ⟨sub', hfits, hcapacity, hqueue⟩ := ih (h.perform haction) hrest
    rw [capacity_effect] at hcapacity hqueue
    refine ⟨sub', hfits, hcapacity, ?_⟩
    rw [collect, collect, admitted_append, ← List.append_assoc, queue_effect_eq h.found haction,
      List.append_assoc, hqueue, List.append_assoc]

/-! ## After the end -/

theorem offersBy_of_unlisted (h : s.subscription? id = some sub) (hlisted : sub.isListed = false)
    (hid : action.given? ≠ some id) : s.offersBy id action = [] := by
  cases action with
  | commit service is => simp [offersBy, h, Subscription.isTo, hlisted]
  | subscribe id' service => exact if_neg fun heq => hid (congrArg some heq)
  | _ => rfl

/-- Off the list, a queue only gets shorter from its front. -/
theorem Fits.performAll_of_unlisted (h : s.Fits id service sub) (hlisted : sub.isListed = false)
    {actions : List Action} (hid : ∀ action ∈ actions, action.given? ≠ some id) :
    ∃ sub', (s.performAll actions).Fits id service sub' ∧ sub'.isListed = false ∧
      s.collect (leavingBy id) actions ++ sub'.queue = sub.queue := by
  induction actions generalizing s sub with
  | nil => exact ⟨sub, h, hlisted, rfl⟩
  | cons action rest ih =>
    obtain ⟨haction, hrest⟩ := List.forall_mem_cons.mp hid
    have hlisted' : (s.effect action sub).isListed = false := by
      cases hnext : (s.effect action sub).isListed with
      | false => rfl
      | true => exact absurd (isListed_of_effect hnext) (by simp [hlisted])
    obtain ⟨sub', hfits, hsub', hqueue⟩ := ih (h.perform haction) hlisted' hrest
    refine ⟨sub', hfits, hsub', ?_⟩
    have hbalance := queue_effect_eq h.found haction
    rw [offersBy_of_unlisted h.found hlisted haction] at hbalance
    rw [collect, List.append_assoc, hqueue, ← hbalance]
    simp [admitted]

theorem Fits.receive_of_unlisted (h : s.Fits id service sub) (hlisted : sub.isListed = false) :
    (s.receive id none).map (·.1) = some ⟨sub.queue, .isClosed⟩ := by
  simp [receive, h.found, hlisted]

theorem Fits.ends (h : s.Fits id service sub)
    (hend : action = .stop id ∨ action = .unsubscribe service id) :
    ∃ sub', (s.perform action).Fits id service sub' ∧ sub'.isListed = false ∧
      sub'.queue = sub.queue := by
  have hself : sub.id = id := id_of_subscription? h.found
  rcases hend with rfl | rfl
  · have heffect : s.effect (.stop id) sub = sub.stopped := if_pos hself
    have hnext : (s.perform (.stop id)).Fits id service sub.stopped := heffect ▸ h.perform nofun
    exact ⟨sub.stopped, hnext, hnext.ended rfl, rfl⟩
  · have heffect : s.effect (.unsubscribe service id) sub = sub.withdrawn service := if_pos hself
    have hnext : (s.perform (.unsubscribe service id)).Fits id service (sub.withdrawn service) :=
      heffect ▸ h.perform nofun
    refine ⟨sub.withdrawn service, hnext, ?_, rfl⟩
    simp [withdrawn, h.service_eq]

/-- Whether or not there is room, a commit takes no subscription off the list whose receiver is
there. -/
theorem Fits.commit (h : s.Fits id service sub) (hheard : sub.isHeard = true) (service' : String)
    (is : List Instance) :
    ∃ sub', (s.perform (.commit service' is)).Fits id service sub' ∧
      sub'.isListed = sub.isListed := by
  refine ⟨s.effect (.commit service' is) sub, h.perform nofun, ?_⟩
  rw [effect, Subscription.notify_eq, hheard]
  simp

end Balance

/-! ## The law of delivery -/

theorem fits_subscribe {s : State} {id : Nat} (service : String)
    (hfree : s.subscription? id = none) :
    (s.perform (.subscribe id service)).Fits id service (s.opening id service) where
  found := by
    rw [subscription?_perform, hfree, made?, if_pos rfl]
    rfl
  service_eq := rfl
  le_capacity := by simp [opening, capacityFor]
  ended := nofun

/-- Whatever is done to a registry's state before and after a subscription under a number of its
own: the queue has room for the least capacity or for every present member, whichever is more, and
is never longer. The replay of the present members waits whole. What was ever in the queue, which is
what left it and what waits, is the stream of what the receiver is told without those changes that
came when as many waited as there is room for; if none did, it is the stream. A commit keeps the
subscription on the list as long as the receiver is there, and its changes and the members it leaves
do not depend on any queue. After the end the receiver gets what waits then, and is told so. -/
theorem delivery_exact (buffer : Nat) (before later : List Action) (id : Nat) (service : String)
    (hid : ∀ action ∈ before ++ later, action.given? ≠ some id) :
    let start := (new buffer).performAll before
    let run := Action.subscribe id service :: later
    let now := start.performAll run
    let offers := start.collect (offersBy id) run
    let stream := start.collect (heardBy id) run
    let left := start.collect (leavingBy id) run
    ∃ sub, now.subscription? id = some sub ∧
      sub.capacity = max (max buffer 1) (start.instances service).length ∧
      sub.queue.length ≤ sub.capacity ∧
      (((start.perform (.subscribe id service)).subscription? id).map (·.queue) =
          some ((start.instances service).map Change.joined) ∧
        ∀ o ∈ start.offersBy id (.subscribe id service), o.2 < sub.capacity) ∧
      offers.map (·.1) = stream ∧
      left ++ sub.queue = (offers.filter (·.2 < sub.capacity)).map (·.1) ∧
      ((∀ o ∈ offers, o.2 < sub.capacity) → left ++ sub.queue = stream) ∧
      (∀ service' is,
        (sub.isHeard = true →
          ((now.perform (.commit service' is)).subscription? id).map (·.isListed) =
            some sub.isListed) ∧
        (now.commit service' is).1 = difference (now.instances service') (distinct is) ∧
        ∀ s, (now.commit service' is).2.instances s =
          if service' = s then distinct is else now.instances s) ∧
      ∀ (ending : Action) (further : List Action),
        ending = .stop id ∨ ending = .unsubscribe service id →
        (∀ action ∈ further, action.given? ≠ some id ∧ action ≠ .dropReceiver id) →
        let ended := now.perform ending
        ∃ rest, ended.collect (leavingBy id) further ++ rest = sub.queue ∧
          ((ended.performAll further).receive id none).map (·.1) = some ⟨rest, .isClosed⟩ := by
  intro start run now offers stream left
  obtain ⟨hbefore, hlater⟩ := List.forall_mem_append.mp hid
  have hopened : (start.perform (.subscribe id service)).Fits id service
      (start.opening id service) :=
    fits_subscribe service (subscription?_performAll_eq_none rfl hbefore)
  obtain ⟨sub, hfits, hcapacity, hqueue⟩ := hopened.performAll hlater
  replace hfits : now.Fits id service sub := hfits
  -- The queue is made with room for the replay.
  have hroom : ∀ o ∈ start.offersBy id (.subscribe id service), o.2 < sub.capacity := by
    rw [hcapacity, offersBy, if_pos rfl]
    exact start.fits_vacant id service
  have hstream : offers.map (·.1) = stream := map_fst_collect_offersBy start id run
  have hlaw : left ++ sub.queue = admitted sub.capacity offers := by
    have hreplay := start.queue_opening_eq id service
    show [] ++ _ ++ sub.queue = admitted sub.capacity (_ ++ _)
    rw [List.nil_append, ← hqueue, admitted_append, hcapacity, hreplay]
    rfl
  refine ⟨sub, hfits.found, ?_, hfits.le_capacity, ⟨?_, hroom⟩, hstream, hlaw, fun hall => ?_,
    fun service' is => ⟨fun hheard => ?_, rfl, fun s => instances_commit now service' s is⟩,
    fun ending further hending hfurther => ?_⟩
  · rw [hcapacity]
    show max start.buffer _ = _
    rw [show start.buffer = max buffer 1 from buffer_performAll (new buffer) before]
  · rw [hopened.found]
    rfl
  · rw [hlaw, admitted_eq_map hall, hstream]
  · obtain ⟨sub', hfits', hlisted⟩ := hfits.commit hheard service' is
    rw [hfits'.found, Option.map_some, hlisted]
  · obtain ⟨sub', hended, hlisted, hsame⟩ := hfits.ends hending
    obtain ⟨sub'', hfits'', hlisted'', hrest⟩ :=
      hended.performAll_of_unlisted hlisted fun action haction => (hfurther action haction).1
    exact ⟨sub''.queue, hrest.trans hsame, hfits''.receive_of_unlisted hlisted''⟩

/-- One change fits in the queue: of a commit that moves a member the departure gets in, and the
arrival does not. -/
theorem delivery_exact_overflow :
    let before : List Action := [.commit "users" [⟨"users", "a:1"⟩]]
    let later : List Action := [.receive 0 none, .commit "users" [⟨"users", "b:1"⟩]]
    let start := (new 1).performAll before
    let run := Action.subscribe 0 "users" :: later
    let now := start.performAll run
    (∀ action ∈ before ++ later, action.given? ≠ some 0) ∧
    start.collect (heardBy 0) run =
      [.joined ⟨"users", "a:1"⟩, .departed ⟨"users", "a:1"⟩, .joined ⟨"users", "b:1"⟩] ∧
    (∃ sub, now.subscription? 0 = some sub ∧ sub.capacity = 1 ∧
      start.collect (leavingBy 0) run ++ sub.queue =
        [.joined ⟨"users", "a:1"⟩, .departed ⟨"users", "a:1"⟩]) ∧
    (((now.perform (.stop 0)).performAll []).receive 0 none).map (·.1) =
      some ⟨[.departed ⟨"users", "a:1"⟩], .isClosed⟩ := by
  intro before later start run now
  have hid : ∀ action ∈ before ++ later, action.given? ≠ some 0 := by decide
  obtain ⟨sub, hsub, hcapacity, _, _, _, hlaw, _, _, hend⟩ :=
    delivery_exact 1 before later 0 "users" hid
  replace hcapacity : sub.capacity = 1 := hcapacity.trans (by decide +kernel)
  rw [hcapacity] at hlaw
  obtain ⟨rest, hrest, hreceipt⟩ := hend (.stop 0) [] (Or.inl rfl) nofun
  have hqueue : (now.subscription? 0).map (·.queue) = some [.departed ⟨"users", "a:1"⟩] := by
    decide +kernel
  rw [hsub, Option.map_some, Option.some.injEq] at hqueue
  rw [show rest = _ from hrest.trans hqueue] at hreceipt
  exact ⟨hid, by decide +kernel, ⟨sub, hsub, hcapacity, hlaw.trans (by decide +kernel)⟩, hreceipt⟩

end State

end Roster
