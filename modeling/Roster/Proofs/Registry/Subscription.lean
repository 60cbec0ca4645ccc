import Roster.Registry.State

/-!
# What can happen to a subscription

Changes that are offered only lengthen the queue (`foldl_offer_eq`), by as many of them as there is
room for (`queue_foldl_offer`). A commit offers its changes to a listed subscription, or takes it
off the list if its receiver is gone (`notify_eq`). What this leaves of a subscription to the
service is written out in `informed`; the other changes of a subscription have names here, too.
-/

namespace Roster.Subscription

/-! ## Offers -/

theorem foldl_offer_eq (cs : List Change) (sub : Subscription) :
    cs.foldl offer sub = { sub with queue := (cs.foldl offer sub).queue } := by
  induction cs generalizing sub with
  | nil => rfl
  | cons c rest ih =>
    rw [List.foldl_cons, ih, offer]
    split <;> rfl

/-- What is offered goes to the end of the queue, as far as there is room. -/
theorem queue_foldl_offer (cs : List Change) (sub : Subscription) :
    (cs.foldl offer sub).queue = sub.queue ++ cs.take (sub.capacity - sub.queue.length) := by
  induction cs generalizing sub with
  | nil => rw [List.foldl_nil, List.take_nil, List.append_nil]
  | cons c rest ih =>
    rw [List.foldl_cons, ih, offer]
    split
    · next hroom =>
      have hleft : sub.capacity - sub.queue.length = sub.capacity - (sub.queue.length + 1) + 1 := by
        omega
      rw [hleft, List.take_succ_cons, List.length_append, List.length_singleton,
        List.append_assoc]
      rfl
    · next hfull =>
      have hleft : sub.capacity - sub.queue.length = 0 := by omega
      rw [hleft, List.take_zero, List.take_zero]

theorem length_queue_foldl_offer_le {sub : Subscription} (h : sub.queue.length ≤ sub.capacity)
    (cs : List Change) : (cs.foldl offer sub).queue.length ≤ sub.capacity := by
  have htaken := List.length_take_le (sub.capacity - sub.queue.length) cs
  rw [queue_foldl_offer, List.length_append]
  omega

theorem queue_foldl_offer_ne_nil {cs : List Change} (hcs : cs ≠ []) {sub : Subscription}
    (hcapacity : 0 < sub.capacity) : (cs.foldl offer sub).queue ≠ [] := by
  rw [queue_foldl_offer, ne_eq, List.append_eq_nil_iff, List.take_eq_nil_iff]
  rintro ⟨hempty, hfull | hnone⟩
  · rw [hempty, List.length_nil] at hfull
    omega
  · exact hcs hnone

/-! ## Commits -/

/-- A commit offers its changes to a listed subscription to its service. If there are changes and
the receiver is gone, it takes the subscription off the list instead. -/
theorem notify_eq (service : String) (cs : List Change) (sub : Subscription) :
    sub.notify service cs =
      { sub with
        queue := if sub.isTo service && sub.isHeard then (cs.foldl offer sub).queue else sub.queue
        isListed := sub.isListed && (sub.isHeard || cs.isEmpty || sub.service != service) } := by
  unfold notify isTo
  by_cases hto : (sub.isListed && sub.service == service) = true
  · rw [if_pos hto]
    rw [Bool.and_eq_true, beq_iff_eq] at hto
    split
    · next hheard =>
      rw [foldl_offer_eq]
      simp [hto, hheard]
    · next hheard => simp [hto, hheard]
  · rw [if_neg hto]
    cases hlisted : sub.isListed
    · cases sub
      simp_all
    · rw [hlisted, Bool.true_and, beq_iff_eq] at hto
      cases sub
      simp_all

@[simp] theorem notify_id (service : String) (cs : List Change) (sub : Subscription) :
    (sub.notify service cs).id = sub.id := by rw [notify_eq]

theorem notify_nil (service : String) (sub : Subscription) : sub.notify service [] = sub := by
  rw [notify_eq]
  cases sub
  simp

theorem notify_of_ne {service : String} {sub : Subscription} (h : sub.service ≠ service)
    (cs : List Change) : sub.notify service cs = sub := by
  refine if_neg fun hto => h ?_
  rw [Bool.and_eq_true, beq_iff_eq] at hto
  exact hto.2

@[simp] theorem notify_service (service : String) (cs : List Change) (sub : Subscription) :
    (sub.notify service cs).service = sub.service := by rw [notify_eq]

/-- A subscription after changes of its service. While it is listed, they wait behind what waited
before, as far as there is room; if its receiver is gone, the first of them ends it instead. -/
def informed (cs : List Change) (sub : Subscription) : Subscription :=
  { sub with
    queue :=
      if sub.isListed && sub.isHeard then
        sub.queue ++ cs.take (sub.capacity - sub.queue.length)
      else sub.queue
    isListed := sub.isListed && (sub.isHeard || cs.isEmpty) }

theorem notify_eq_informed {service : String} {sub : Subscription} (h : sub.service = service)
    (cs : List Change) : sub.notify service cs = sub.informed cs := by
  subst h
  rw [notify_eq, queue_foldl_offer, informed]
  simp [isTo]

/-! ## Other changes -/

def withdrawn (service : String) (sub : Subscription) : Subscription :=
  { sub with isListed := sub.isListed && sub.service != service }

def stopped (sub : Subscription) : Subscription :=
  { sub with isStopped := true, isListed := sub.isListed && sub.isStopped }

def drained (limit : Option Nat) (sub : Subscription) : Subscription :=
  { sub with queue := sub.queue.drop (limit.getD sub.queue.length) }

def unheard (sub : Subscription) : Subscription := { sub with isHeard := false, queue := [] }

end Roster.Subscription
