import Mathlib.Algebra.Group.Nat.Defs
import Roster.Proofs.Ring

/-!
# Rings of the same addresses

Going round a ring from a place, the point to which the place belongs comes first: no point is at a
smaller `distance` (`distance_le_of_pointAt?`). Which point that is does not depend on the order in
which points were added, unless several stand at one place. So rings of the same addresses have the
same owner for every key, if points of different addresses stand apart (`owner?_build_eq`).
-/

namespace Roster

/-- Points of different addresses stand at different places. -/
def RingHash.Separates (h : RingHash) (replicas : Nat) (addresses : List String) : Prop :=
  ∀ a ∈ addresses, ∀ b ∈ addresses, ∀ m < replicas, ∀ n < replicas,
    h.point a m = h.point b n → a = b

instance (h : RingHash) (replicas : Nat) (addresses : List String) :
    Decidable (h.Separates replicas addresses) :=
  inferInstanceAs (Decidable (∀ a ∈ addresses, ∀ b ∈ addresses, ∀ m < replicas, ∀ n < replicas,
    h.point a m = h.point b n → a = b))

/-- How far a point is from a place, going round. -/
def RingPoint.distance (p : RingPoint) (place : UInt64) : UInt64 := p.place - place

namespace RingPoint

theorem toNat_distance (p : RingPoint) (place : UInt64) :
    (p.distance place).toNat = (2 ^ 64 - place.toNat + p.place.toNat) % 2 ^ 64 :=
  UInt64.toNat_sub p.place place

theorem place_eq_of_distance_eq {p q : RingPoint} {place : UInt64}
    (h : p.distance place = q.distance place) : p.place = q.place := by
  have hnat := congrArg UInt64.toNat h
  rw [toNat_distance, toNat_distance] at hnat
  have hp := p.place.toNat_lt
  have hq := q.place.toNat_lt
  have hplace := place.toNat_lt
  exact UInt64.toNat_inj.mp (by omega)

end RingPoint

namespace Ring

theorem pairwise_points_build (h : RingHash) (replicas : Nat) (addresses : List String) :
    (build h addresses replicas).points.Pairwise fun p q => p.place ≤ q.place := by
  have hsorted : (build h addresses replicas).points.Pairwise
      fun p q => decide (p.place ≤ q.place) = true :=
    List.pairwise_mergeSort place_le_trans place_le_total _
  exact hsorted.imp of_decide_eq_true

/-- On a ring in order, no point is nearer than the one to which a place belongs. -/
theorem distance_le_of_pointAt? {r : Ring}
    (hsorted : r.points.Pairwise fun p q => p.place ≤ q.place) {place : UInt64} {p q : RingPoint}
    (hp : r.pointAt? place = some p) (hq : q ∈ r.points) : p.distance place ≤ q.distance place := by
  have hpbound := p.place.toNat_lt
  have hqbound := q.place.toNat_lt
  have hbound := place.toNat_lt
  rw [UInt64.le_iff_toNat_le, RingPoint.toNat_distance, RingPoint.toNat_distance]
  rcases Option.or_eq_some_iff.mp hp with hfound | ⟨hnone, hhead⟩
  · obtain ⟨hplace, before, after, hpoints, hbefore⟩ := List.find?_eq_some_iff_append.mp hfound
    rw [decide_eq_true_eq, UInt64.le_iff_toNat_le] at hplace
    rw [hpoints] at hq hsorted
    rcases List.mem_append.mp hq with hq | hq
    · -- A point before the place is reached only after a whole turn.
      have hlt := hbefore q hq
      rw [Bool.not_eq_true', decide_eq_false_iff_not, UInt64.le_iff_toNat_le] at hlt
      omega
    · rcases List.mem_cons.mp hq with rfl | hq
      · exact Nat.le_refl _
      · have hle := (List.pairwise_cons.mp (List.pairwise_append.mp hsorted).2.1).1 q hq
        rw [UInt64.le_iff_toNat_le] at hle
        omega
  · obtain ⟨rest, hpoints⟩ := List.head?_eq_some_iff.mp hhead
    have hwraps : ∀ q ∈ r.points, q.place.toNat < place.toNat := by
      intro q hq
      have hlt := List.find?_eq_none.mp hnone q hq
      rw [decide_eq_true_eq, UInt64.le_iff_toNat_le] at hlt
      omega
    have hpwraps := hwraps p (List.mem_of_head? hhead)
    have hqwraps := hwraps q hq
    have hle : p.place.toNat ≤ q.place.toNat := by
      rw [hpoints] at hq hsorted
      rcases List.mem_cons.mp hq with rfl | hq
      · exact Nat.le_refl _
      · exact UInt64.le_iff_toNat_le.mp ((List.pairwise_cons.mp hsorted).1 q hq)
    omega

variable {h : RingHash} {replicas : Nat} {as bs : List String}

theorem mem_points_build_congr (hsame : ∀ a, a ∈ as ↔ a ∈ bs) (p : RingPoint) :
    p ∈ (build h as replicas).points ↔ p ∈ (build h bs replicas).points := by
  simp only [mem_points_build, hsame]

theorem address_eq_of_place_eq (hseparate : h.Separates replicas as) {p q : RingPoint}
    (hp : p ∈ (build h as replicas).points) (hq : q ∈ (build h as replicas).points)
    (hplace : p.place = q.place) : p.address = q.address := by
  obtain ⟨a, ha, hpa⟩ := (mem_points_build h replicas).mp hp
  obtain ⟨b, hb, hqb⟩ := (mem_points_build h replicas).mp hq
  obtain ⟨m, hm, rfl⟩ := (mem_pointsOf h replicas).mp hpa
  obtain ⟨n, hn, rfl⟩ := (mem_pointsOf h replicas).mp hqb
  exact hseparate a ha b hb m hm n hn hplace

/-- The owner of a key depends on the set of addresses alone, if points of different addresses
stand apart. -/
theorem owner?_build_eq (hsame : ∀ a, a ∈ as ↔ a ∈ bs) (hseparate : h.Separates replicas as)
    (key : String) :
    (build h as replicas).owner? h key = (build h bs replicas).owner? h key := by
  unfold owner?
  cases hp : (build h as replicas).pointAt? (h.key key) with
  | none =>
    have hnil := pointAt?_eq_none_iff.mp hp
    have hnil' : (build h bs replicas).points = [] := by
      rw [List.eq_nil_iff_forall_not_mem] at hnil ⊢
      exact fun q hq => hnil q ((mem_points_build_congr hsame q).mpr hq)
    rw [pointAt?_eq_none_iff.mpr hnil']
  | some p =>
    have hpmem := mem_points_of_pointAt? hp
    cases hq : (build h bs replicas).pointAt? (h.key key) with
    | none =>
      have hpmem' := (mem_points_build_congr hsame p).mp hpmem
      rw [pointAt?_eq_none_iff.mp hq] at hpmem'
      cases hpmem'
    | some q =>
      have hqmem := (mem_points_build_congr hsame q).mpr (mem_points_of_pointAt? hq)
      -- Each of the two is among the points of the other ring, and so no nearer than its own.
      have hdistance : p.distance (h.key key) = q.distance (h.key key) :=
        UInt64.le_antisymm
          (distance_le_of_pointAt? (pairwise_points_build h replicas as) hp hqmem)
          (distance_le_of_pointAt? (pairwise_points_build h replicas bs) hq
            ((mem_points_build_congr hsame p).mp hpmem))
      rw [Option.map_some, Option.map_some, address_eq_of_place_eq hseparate hpmem hqmem
        (RingPoint.place_eq_of_distance_eq hdistance)]

end Ring

end Roster
