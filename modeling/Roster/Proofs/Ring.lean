import Roster.Ring

/-!
# Keys on rings of different addresses

A ring lists its points in the order of a stable sort, so deleting addresses from a list deletes
their points from the ring and leaves the others in their order (`points_build_filter`). The first
point at or after a place, if it stays, is then still the first one, with or without wrapping
around (`pointAt?_filter`). Hence a key moves only if its owner was deleted (`remapping_minimal`).
-/

namespace Roster

/-! ## Stable sorting commutes with deletion -/

theorem eq_of_append_eq_append {α : Type} {p : α → Bool} {l₁ l₂ m₁ m₂ : List α}
    (h : l₁ ++ l₂ = m₁ ++ m₂) (hl₁ : ∀ b ∈ l₁, p b = true) (hl₂ : ∀ b ∈ l₂, p b = false)
    (hm₁ : ∀ b ∈ m₁, p b = true) (hm₂ : ∀ b ∈ m₂, p b = false) : l₁ = m₁ := by
  have key : ∀ k₁ k₂ : List α, (∀ b ∈ k₁, p b = true) → (∀ b ∈ k₂, p b = false) →
      (k₁ ++ k₂).takeWhile p = k₁ := by
    intro k₁ k₂ hk₁ hk₂
    rw [List.takeWhile_append_of_pos hk₁]
    cases k₂ with
    | nil => simp
    | cons b k₂ => simp [hk₂ b List.mem_cons_self]
  rw [← key l₁ l₂ hl₁ hl₂, h, key m₁ m₂ hm₁ hm₂]

/-- Deleting elements before a stable sort or after it makes no difference. -/
theorem filter_mergeSort {α : Type} {le : α → α → Bool}
    (trans : ∀ a b c, le a b = true → le b c = true → le a c = true)
    (total : ∀ a b, (le a b || le b a) = true) (keep : α → Bool) (l : List α) :
    (l.mergeSort le).filter keep = (l.filter keep).mergeSort le := by
  induction l with
  | nil => simp
  | cons a l ih =>
    obtain ⟨l₁, l₂, hl, hrest, hl₁⟩ := List.mergeSort_cons trans total a l
    by_cases ha : keep a = true
    · obtain ⟨m₁, m₂, hm, hkept, hm₁⟩ := List.mergeSort_cons trans total a (l.filter keep)
      -- In both sorted lists `a` stands before everything that is not smaller.
      have hl₂ : ∀ b ∈ l₂, le a b = true := by
        have hsorted := List.pairwise_mergeSort trans total (a :: l)
        rw [hl] at hsorted
        exact (List.pairwise_cons.mp (List.pairwise_append.mp hsorted).2.1).1
      have hm₂ : ∀ b ∈ m₂, le a b = true := by
        have hsorted := List.pairwise_mergeSort trans total (a :: l.filter keep)
        rw [hm] at hsorted
        exact (List.pairwise_cons.mp (List.pairwise_append.mp hsorted).2.1).1
      have hsplit : l₁.filter keep ++ l₂.filter keep = m₁ ++ m₂ := by
        rw [← List.filter_append, ← hrest, ih, hkept]
      have h₁ : l₁.filter keep = m₁ :=
        eq_of_append_eq_append (p := fun b => !le a b) hsplit
          (fun b hb => hl₁ b (List.mem_filter.mp hb).1)
          (fun b hb => by simp [hl₂ b (List.mem_filter.mp hb).1])
          hm₁ (fun b hb => by simp [hm₂ b hb])
      have h₂ : l₂.filter keep = m₂ := by
        rw [h₁] at hsplit
        exact List.append_cancel_left hsplit
      rw [hl, List.filter_append, List.filter_cons_of_pos ha, h₁, h₂,
        List.filter_cons_of_pos ha, hm]
    · rw [hl, List.filter_append, List.filter_cons_of_neg ha, List.filter_cons_of_neg ha,
        ← List.filter_append, ← hrest, ih]

namespace Ring

variable (h : RingHash) (replicas : Nat)

/-! ## The points of a ring -/

theorem mem_pointsOf {a : String} {p : RingPoint} :
    p ∈ pointsOf h replicas a ↔ ∃ n < replicas, p = ⟨h.point a n, a⟩ := by
  simp only [pointsOf, List.mem_map, List.mem_range]
  constructor
  · rintro ⟨n, hn, rfl⟩
    exact ⟨n, hn, rfl⟩
  · rintro ⟨n, hn, rfl⟩
    exact ⟨n, hn, rfl⟩

theorem mem_points_build {addresses : List String} {p : RingPoint} :
    p ∈ (build h addresses replicas).points ↔ ∃ a ∈ addresses, p ∈ pointsOf h replicas a := by
  rw [build, List.mem_mergeSort, List.mem_flatMap]

theorem address_of_mem_pointsOf {a : String} {p : RingPoint} (hp : p ∈ pointsOf h replicas a) :
    p.address = a := by
  obtain ⟨n, _, rfl⟩ := (mem_pointsOf h replicas).mp hp
  rfl

theorem filter_pointsOf (keep : String → Bool) (a : String) :
    (pointsOf h replicas a).filter (fun p => keep p.address) =
      if keep a then pointsOf h replicas a else [] := by
  split
  · next ha =>
    rw [List.filter_eq_self]
    intro p hp
    rw [address_of_mem_pointsOf h replicas hp, ha]
  · next ha =>
    rw [List.filter_eq_nil_iff]
    intro p hp
    rw [address_of_mem_pointsOf h replicas hp]
    exact ha

theorem filter_flatMap_pointsOf (keep : String → Bool) (addresses : List String) :
    (addresses.flatMap (pointsOf h replicas)).filter (fun p => keep p.address) =
      (addresses.filter keep).flatMap (pointsOf h replicas) := by
  induction addresses with
  | nil => rfl
  | cons a rest ih =>
    rw [List.flatMap_cons, List.filter_append, filter_pointsOf, ih, List.filter_cons]
    split
    · rw [List.flatMap_cons]
    · rw [List.nil_append]

theorem place_le_trans (p q r : RingPoint) (hpq : decide (p.place ≤ q.place) = true)
    (hqr : decide (q.place ≤ r.place) = true) : decide (p.place ≤ r.place) = true := by
  rw [decide_eq_true_eq] at hpq hqr ⊢
  exact UInt64.le_trans hpq hqr

theorem place_le_total (p q : RingPoint) :
    (decide (p.place ≤ q.place) || decide (q.place ≤ p.place)) = true := by
  rw [Bool.or_eq_true, decide_eq_true_eq, decide_eq_true_eq]
  exact UInt64.le_total p.place q.place

/-- The ring without some addresses has the points of the others, in the same order. -/
theorem points_build_filter (keep : String → Bool) (addresses : List String) :
    (build h (addresses.filter keep) replicas).points =
      (build h addresses replicas).points.filter fun p => keep p.address := by
  show _ = (List.mergeSort _ _).filter _
  rw [filter_mergeSort place_le_trans place_le_total, filter_flatMap_pointsOf]
  rfl

theorem points_build_eq_nil_iff {addresses : List String} :
    (build h addresses replicas).points = [] ↔ addresses = [] ∨ replicas = 0 := by
  simp only [List.eq_nil_iff_forall_not_mem, mem_points_build, mem_pointsOf, not_exists, not_and]
  constructor
  · intro hnone
    by_cases hr : replicas = 0
    · exact Or.inr hr
    · refine Or.inl fun a ha => ?_
      exact hnone ⟨h.point a 0, a⟩ a ha 0 (Nat.pos_of_ne_zero hr) rfl
  · rintro (hempty | rfl) p a ha n hn
    · exact absurd ha (hempty a)
    · exact absurd hn (Nat.not_lt_zero n)

/-! ## The owner of a key -/

theorem pointAt?_eq_none_iff {r : Ring} {place : UInt64} :
    r.pointAt? place = none ↔ r.points = [] := by
  rw [pointAt?, Option.or_eq_none_iff, List.head?_eq_none_iff]
  refine ⟨And.right, fun hnil => ⟨?_, hnil⟩⟩
  rw [hnil]
  rfl

theorem mem_points_of_pointAt? {r : Ring} {place : UInt64} {p : RingPoint}
    (hp : r.pointAt? place = some p) : p ∈ r.points := by
  rcases Option.or_eq_some_iff.mp hp with hfound | ⟨_, hhead⟩
  · exact List.mem_of_find?_eq_some hfound
  · exact List.mem_of_head? hhead

/-- A point to which a place belongs keeps it when other points are deleted. -/
theorem pointAt?_filter {r : Ring} {place : UInt64} {p : RingPoint} (keep : RingPoint → Bool)
    (hp : r.pointAt? place = some p) (hkeep : keep p = true) :
    (⟨r.points.filter keep⟩ : Ring).pointAt? place = some p := by
  rcases Option.or_eq_some_iff.mp hp with hfound | ⟨hnone, hhead⟩
  · obtain ⟨hplace, before, after, hpoints, hbefore⟩ := List.find?_eq_some_iff_append.mp hfound
    refine Option.or_eq_some_iff.mpr (Or.inl (List.find?_eq_some_iff_append.mpr ?_))
    refine ⟨hplace, before.filter keep, after.filter keep, ?_, ?_⟩
    · rw [hpoints, List.filter_append, List.filter_cons_of_pos hkeep]
    · intro q hq
      exact hbefore q (List.mem_filter.mp hq).1
  · obtain ⟨rest, hpoints⟩ := List.head?_eq_some_iff.mp hhead
    refine Option.or_eq_some_iff.mpr (Or.inr ⟨List.find?_eq_none.mpr ?_, ?_⟩)
    · intro q hq
      exact List.find?_eq_none.mp hnone q (List.mem_filter.mp hq).1
    · rw [hpoints, List.filter_cons_of_pos hkeep]
      rfl

theorem mem_of_owner?_build {addresses : List String} {key a : String}
    (ha : (build h addresses replicas).owner? h key = some a) : a ∈ addresses := by
  obtain ⟨p, hp, rfl⟩ := Option.map_eq_some_iff.mp ha
  obtain ⟨b, hb, hpb⟩ := (mem_points_build h replicas).mp (mem_points_of_pointAt? hp)
  rw [address_of_mem_pointsOf h replicas hpb]
  exact hb

theorem owner?_build_eq_none_iff {addresses : List String} {key : String} :
    (build h addresses replicas).owner? h key = none ↔ addresses = [] ∨ replicas = 0 := by
  rw [owner?, Option.map_eq_none_iff, pointAt?_eq_none_iff, points_build_eq_nil_iff]

theorem owner?_build_filter {keep : String → Bool} {addresses : List String} {key a : String}
    (ha : (build h addresses replicas).owner? h key = some a) (hkeep : keep a = true) :
    (build h (addresses.filter keep) replicas).owner? h key = some a := by
  obtain ⟨p, hp, rfl⟩ := Option.map_eq_some_iff.mp ha
  have hstays := pointAt?_filter (fun q => keep q.address) hp hkeep
  rw [← points_build_filter] at hstays
  rw [owner?, hstays]
  rfl

/-- Deleting any addresses from a ring moves only the keys that belonged to them, and so adding any
addresses moves keys to these alone; a key belongs to nobody exactly if the ring has no points. -/
theorem remapping_minimal (keep : String → Bool) (addresses : List String) (key : String) :
    (∀ a, (build h addresses replicas).owner? h key = some a → keep a = true →
      (build h (addresses.filter keep) replicas).owner? h key = some a) ∧
    ((build h (addresses.filter keep) replicas).owner? h key ≠
        (build h addresses replicas).owner? h key →
      ∃ a ∈ addresses, keep a = false ∧ (build h addresses replicas).owner? h key = some a) ∧
    ((build h addresses replicas).owner? h key = none ↔ addresses = [] ∨ replicas = 0) := by
  refine ⟨fun a => owner?_build_filter h replicas, ?_, owner?_build_eq_none_iff h replicas⟩
  intro hmoved
  cases ha : (build h addresses replicas).owner? h key with
  | none =>
    -- A ring without points stays one, so nothing moved.
    rw [ha] at hmoved
    refine absurd ((owner?_build_eq_none_iff h replicas).mpr ?_) hmoved
    rcases (owner?_build_eq_none_iff h replicas).mp ha with rfl | hr
    · exact Or.inl rfl
    · exact Or.inr hr
  | some a =>
    refine ⟨a, mem_of_owner?_build h replicas ha, ?_, rfl⟩
    cases hkeep : keep a with
    | false => rfl
    | true => exact absurd ((owner?_build_filter h replicas ha hkeep).trans ha.symm) hmoved

end Ring

end Roster
