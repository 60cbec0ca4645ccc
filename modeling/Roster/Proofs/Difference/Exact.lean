import Roster.Proofs.Difference

/-!
# Differences are exact

A difference lists those members of the old list that are first at their address and whose address
the new list lacks, then the same the other way round (`difference_eq`). Its addresses are therefore
distinct, and its pairs of address and kind depend on the two sets of addresses alone
(`mem_pairs_difference`). Departures take addresses off a set that has them, arrivals add addresses
to a set that lacks them, so a difference applies step by step to any list of the old addresses and
leaves the new ones (`addressesAfter?_difference`).
-/

namespace Roster

/-! ## First members -/

/-- Those members of a list, in its order, before which nobody in the list has their address, if
nobody among others has it. -/
def firstsWithout (others is : List Instance) : List Instance :=
  (is.zipIdx.filter fun p =>
    !hasAddress (is.take p.2) p.1.address && !hasAddress others p.1.address).map (·.1)

theorem hasAddress_append (is js : List Instance) (a : String) :
    hasAddress (is ++ js) a = (hasAddress is a || hasAddress js a) :=
  List.any_append

/-- Behind some members, the distinct ones of a list that are new are those whose address stands
nowhere before them. -/
theorem filter_distinct_eq (before is : List Instance) :
    (distinct is).filter (fun i => !hasAddress before i.address) =
      ((is.zipIdx before.length).filter fun p =>
        !hasAddress ((before ++ is).take p.2) p.1.address).map (·.1) := by
  induction is generalizing before with
  | nil => rfl
  | cons i rest ih =>
    have hrest : ((distinct rest).filter (·.address != i.address)).filter
        (fun j => !hasAddress before j.address) =
        (distinct rest).filter fun j => !hasAddress (before ++ [i]) j.address := by
      rw [List.filter_filter]
      refine List.filter_congr fun j _ => ?_
      simp [hasAddress_append, bne, Bool.beq_comm]
    have htail := ih (before ++ [i])
    rw [List.append_assoc, List.singleton_append, List.length_append,
      List.length_singleton] at htail
    rw [distinct, List.zipIdx_cons, List.filter_cons, List.filter_cons, hrest, htail]
    simp only [List.take_left]
    split <;> rfl

theorem firstsWithout_eq (others is : List Instance) :
    firstsWithout others is = (distinct is).filter fun i => !hasAddress others i.address := by
  have hfirst := filter_distinct_eq [] is
  simp only [hasAddress_nil, Bool.not_false, List.filter_true, List.nil_append,
    List.length_nil] at hfirst
  rw [hfirst, List.filter_map, List.filter_filter, firstsWithout]
  congr 1
  refine List.filter_congr fun p _ => ?_
  rw [Function.comp_apply, Bool.and_comm]

theorem difference_eq (old new : List Instance) :
    difference old new =
      (firstsWithout new old).map Change.departed ++ (firstsWithout old new).map Change.joined := by
  rw [firstsWithout_eq, firstsWithout_eq, difference]

theorem nodup_firstsWithout (others is : List Instance) :
    ((firstsWithout others is).map (·.address)).Nodup := by
  rw [firstsWithout_eq]
  exact nodup_filter_distinct is _

theorem mem_firstsWithout {others is : List Instance} {a : String} :
    a ∈ (firstsWithout others is).map (·.address) ↔
      hasAddress is a = true ∧ hasAddress others a = false := by
  rw [firstsWithout_eq, ← hasAddress_iff, hasAddress_filter_distinct]
  simp

/-! ## The addresses of a difference -/

theorem map_address_difference (old new : List Instance) :
    (difference old new).map (·.member.address) =
      (firstsWithout new old).map (·.address) ++ (firstsWithout old new).map (·.address) := by
  rw [difference_eq, List.map_append, List.map_map, List.map_map]
  rfl

theorem nodup_map_address_difference (old new : List Instance) :
    ((difference old new).map (·.member.address)).Nodup := by
  rw [map_address_difference, List.nodup_append]
  refine ⟨nodup_firstsWithout new old, nodup_firstsWithout old new, ?_⟩
  rintro a hleft _ hentered rfl
  have hnew := (mem_firstsWithout.mp hleft).2
  rw [(mem_firstsWithout.mp hentered).1] at hnew
  cases hnew

/-- The pairs of address and kind that changes consist of. -/
def pairs (cs : List Change) : List (String × ChangeKind) :=
  cs.map fun c => (c.member.address, c.kind)

theorem mem_pairs_difference {old new : List Instance} {a : String} {k : ChangeKind} :
    (a, k) ∈ pairs (difference old new) ↔
      k = .deregistered ∧ a ∈ addressSet old \ addressSet new ∨
      k = .registered ∧ a ∈ addressSet new \ addressSet old := by
  have hpairs : pairs (difference old new) =
      (firstsWithout new old).map (fun i => (i.address, .deregistered)) ++
        (firstsWithout old new).map (fun i => (i.address, .registered)) := by
    rw [pairs, difference_eq, List.map_append, List.map_map, List.map_map]
    rfl
  have hside (others is : List Instance) (k' : ChangeKind) :
      (a, k) ∈ (firstsWithout others is).map (fun i => (i.address, k')) ↔
        k = k' ∧ a ∈ addressSet is \ addressSet others := by
    rw [Finset.mem_sdiff, mem_addressSet, mem_addressSet, Bool.not_eq_true, ← mem_firstsWithout]
    simp only [List.mem_map, Prod.mk.injEq]
    constructor
    · rintro ⟨i, hi, ha, hk⟩
      exact ⟨hk.symm, i, hi, ha⟩
    · rintro ⟨hk, i, hi, ha⟩
      exact ⟨i, hi, ha, hk.symm⟩
  rw [hpairs, List.mem_append, hside, hside]

theorem nodup_pairs_difference (old new : List Instance) : (pairs (difference old new)).Nodup := by
  refine List.Nodup.of_map Prod.fst ?_
  rw [pairs, List.map_map]
  exact nodup_map_address_difference old new

/-- Up to their order, the pairs of a difference are a matter of the two sets of addresses. -/
theorem pairs_difference_perm {old new old' new' : List Instance}
    (hold : addressSet old' = addressSet old) (hnew : addressSet new' = addressSet new) :
    (pairs (difference old' new')).Perm (pairs (difference old new)) := by
  rw [List.perm_ext_iff_of_nodup (nodup_pairs_difference old' new')
    (nodup_pairs_difference old new)]
  rintro ⟨a, k⟩
  rw [mem_pairs_difference, mem_pairs_difference, hold, hnew]

/-! ## Applying a difference -/

theorem addressesAfter?_departed {is : List Instance} {addresses : List String}
    (hnodup : addresses.Nodup) (his : (is.map (·.address)).Nodup)
    (hthere : ∀ a ∈ is.map (·.address), a ∈ addresses) (rest : List Change) :
    ∃ left : List String, left.Nodup ∧
      (∀ a, a ∈ left ↔ a ∈ addresses ∧ a ∉ is.map (·.address)) ∧
      addressesAfter? addresses (is.map Change.departed ++ rest) = addressesAfter? left rest := by
  induction is generalizing addresses with
  | nil => exact ⟨addresses, hnodup, by simp, rfl⟩
  | cons i others ih =>
    simp only [List.map_cons, List.nodup_cons, List.mem_cons, forall_eq_or_imp] at his hthere
    have hothers : ∀ a ∈ others.map (·.address), a ∈ addresses.erase i.address := by
      intro a ha
      have hne : a ≠ i.address := fun he => his.1 (he ▸ ha)
      exact (List.mem_erase_of_ne hne).mpr (hthere.2 a ha)
    obtain ⟨left, hleft, hmem, hafter⟩ := ih (hnodup.erase i.address) his.2 hothers
    refine ⟨left, hleft, fun a => ?_, ?_⟩
    · rw [hmem, hnodup.mem_erase_iff]
      simp only [List.map_cons, List.mem_cons]
      tauto
    · have hfirst : (Change.departed i).applyTo? addresses = some (addresses.erase i.address) :=
        if_pos hthere.1
      rw [← hafter, List.map_cons, List.cons_append, addressesAfter?, hfirst]
      rfl

theorem addressesAfter?_joined {is : List Instance} {addresses : List String}
    (hnodup : addresses.Nodup) (his : (is.map (·.address)).Nodup)
    (hnew : ∀ a ∈ is.map (·.address), a ∉ addresses) :
    ∃ after : List String, after.Nodup ∧
      (∀ a, a ∈ after ↔ a ∈ addresses ∨ a ∈ is.map (·.address)) ∧
      addressesAfter? addresses (is.map Change.joined) = some after := by
  induction is generalizing addresses with
  | nil => exact ⟨addresses, hnodup, by simp, rfl⟩
  | cons i others ih =>
    simp only [List.map_cons, List.nodup_cons, List.mem_cons, forall_eq_or_imp] at his hnew
    have hgrown : (addresses ++ [i.address]).Nodup := by
      rw [List.nodup_append]
      simpa using ⟨hnodup, fun a ha he => hnew.1 (he ▸ ha)⟩
    have hothers : ∀ a ∈ others.map (·.address), a ∉ addresses ++ [i.address] := by
      intro a ha hmem
      rcases List.mem_append.mp hmem with hmem | hmem
      · exact hnew.2 a ha hmem
      · exact his.1 (List.mem_singleton.mp hmem ▸ ha)
    obtain ⟨after, hafter, hmem, heq⟩ := ih hgrown his.2 hothers
    refine ⟨after, hafter, fun a => ?_, ?_⟩
    · rw [hmem]
      simp only [List.mem_append, List.map_cons, List.mem_cons, List.not_mem_nil, or_false]
      tauto
    · have hfirst : (Change.joined i).applyTo? addresses = some (addresses ++ [i.address]) :=
        if_neg hnew.1
      rw [← heq, List.map_cons, addressesAfter?, hfirst]
      rfl

/-- Every change of a difference applies in turn to the old addresses, and the new ones are left. -/
theorem addressesAfter?_difference (old new : List Instance) {addresses : List String}
    (hnodup : addresses.Nodup) (hold : addresses.toFinset = addressSet old) :
    ∃ after : List String, addressesAfter? addresses (difference old new) = some after ∧
      after.Nodup ∧ after.toFinset = addressSet new := by
  have hmem (a : String) : a ∈ addresses ↔ hasAddress old a = true := by
    rw [← mem_addressSet, ← hold, List.mem_toFinset]
  obtain ⟨left, hleft, hstays, hdepart⟩ := addressesAfter?_departed hnodup
    (nodup_firstsWithout new old) (fun a ha => (hmem a).mpr (mem_firstsWithout.mp ha).1)
    ((firstsWithout old new).map Change.joined)
  have hnew : ∀ a ∈ (firstsWithout old new).map (·.address), a ∉ left := by
    intro a ha hthere
    have hlacks := (mem_firstsWithout.mp ha).2
    rw [(hmem a).mp ((hstays a).mp hthere).1] at hlacks
    cases hlacks
  obtain ⟨after, hafter, hlast, hjoin⟩ :=
    addressesAfter?_joined hleft (nodup_firstsWithout old new) hnew
  refine ⟨after, ?_, hafter, ?_⟩
  · rw [difference_eq, hdepart, hjoin]
  · ext a
    rw [List.mem_toFinset, hlast, hstays, hmem, mem_firstsWithout, mem_firstsWithout,
      mem_addressSet]
    cases hasAddress old a <;> cases hasAddress new a <;> simp

/-! ## The difference of two lists -/

theorem difference_distinct (old new : List Instance) :
    difference (distinct old) (distinct new) = difference old new := by
  unfold difference
  rw [distinct_eq_self (nodup_map_address_distinct old),
    distinct_eq_self (nodup_map_address_distinct new)]
  simp only [hasAddress_distinct]

theorem difference_eq_nil_iff {old new : List Instance} :
    difference old new = [] ↔ addressSet old = addressSet new := by
  constructor
  · intro hnil
    ext a
    rw [mem_addressSet, mem_addressSet, hasAddress_eq_of_difference_eq_nil hnil]
  · intro hsame
    refine difference_eq_nil fun a => ?_
    rw [Bool.eq_iff_iff, ← mem_addressSet, ← mem_addressSet, hsame]

/-- Whatever members two lists have, and however often, their difference lists first the departure
of each member of the old one that is first at its address and whose address the new one lacks, in
the old order, then the arrival of each member of the new one that is first at its address and whose
address the old one lacks, in the new order. So it has no address twice, repetitions on either side
make no difference to it, and it is empty exactly between lists of the same addresses. Which address
it has with which kind is decided by the two sets of addresses. Its changes apply in turn to the old
addresses, in whatever order these are kept, and leave the new ones. -/
theorem difference_exact (old new : List Instance) :
    difference old new =
      (firstsWithout new old).map Change.departed ++ (firstsWithout old new).map Change.joined ∧
    ((difference old new).map (·.member.address)).Nodup ∧
    difference old new = difference (distinct old) (distinct new) ∧
    (difference old new = [] ↔ addressSet old = addressSet new) ∧
    (∀ old' new' : List Instance, addressSet old' = addressSet old →
      addressSet new' = addressSet new →
      (pairs (difference old' new')).Perm (pairs (difference old new))) ∧
    ∀ addresses : List String, addresses.Nodup → addresses.toFinset = addressSet old →
      ∃ after : List String, addressesAfter? addresses (difference old new) = some after ∧
        after.Nodup ∧ after.toFinset = addressSet new :=
  ⟨difference_eq old new, nodup_map_address_difference old new,
    (difference_distinct old new).symm, difference_eq_nil_iff,
    fun _ _ hold hnew => pairs_difference_perm hold hnew,
    fun _ hnodup hold => addressesAfter?_difference old new hnodup hold⟩

/-- Both lists repeat an address under another service's name, and one address stays. -/
theorem difference_exact_repeated :
    let old : List Instance := [⟨"users", "a"⟩, ⟨"users", "b"⟩, ⟨"orders", "a"⟩]
    let new : List Instance := [⟨"users", "c"⟩, ⟨"orders", "b"⟩, ⟨"users", "c"⟩]
    addressSet old.reverse = addressSet old ∧ addressSet new.reverse = addressSet new ∧
      difference old new = [.departed ⟨"users", "a"⟩, .joined ⟨"users", "c"⟩] ∧
      (pairs (difference old.reverse new.reverse)).Perm
        [("a", .deregistered), ("c", .registered)] ∧
      ∃ after, addressesAfter? ["b", "a"] (difference old new) = some after ∧ after.Nodup ∧
        after.toFinset = addressSet new := by
  intro old new
  obtain ⟨hexact, _, _, _, hpairs, hafter⟩ := difference_exact old new
  have hold : addressSet old.reverse = addressSet old := by decide
  have hnew : addressSet new.reverse = addressSet new := by decide
  have hchanges : difference old new = [.departed ⟨"users", "a"⟩, .joined ⟨"users", "c"⟩] := by
    rw [hexact]
    decide
  have hperm := hpairs old.reverse new.reverse hold hnew
  rw [hchanges] at hperm
  exact ⟨hold, hnew, hchanges, hperm, hafter ["b", "a"] (by decide) (by decide)⟩

end Roster
