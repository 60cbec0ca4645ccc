import Mathlib.Data.Finset.Card
import Mathlib.Data.Finset.Dedup
import Mathlib.Data.Finset.Erase
import Mathlib.Data.Finset.Insert
import Mathlib.Data.List.Chain
import Roster.Difference

/-!
# Streams of changes

What a stream of changes says of one address is a list of kinds (`kindsOf`). A difference says
nothing of an address that is in both lists or in neither, and one thing of any other
(`kindsOf_difference`). So a stream that tracks one list of members (`Tracks`) tracks the next one
when the difference is added to it (`Tracks.append_difference`), and its addresses take turns in
joining and leaving.
-/

namespace Roster

/-! ## What a stream says of an address -/

/-- What changes say of an address, in order. -/
def kindsOf (a : String) (cs : List Change) : List ChangeKind :=
  (cs.filter (·.member.address == a)).map (·.kind)

@[simp] theorem kindsOf_nil (a : String) : kindsOf a [] = [] := rfl

theorem kindsOf_append (a : String) (cs ds : List Change) :
    kindsOf a (cs ++ ds) = kindsOf a cs ++ kindsOf a ds := by
  rw [kindsOf, List.filter_append, List.map_append]
  rfl

theorem kindsOf_singleton (a : String) (c : Change) :
    kindsOf a [c] = if c.member.address = a then [c.kind] else [] := by
  unfold kindsOf
  split <;> simp_all

def addressSet (is : List Instance) : Finset String := (is.map (·.address)).toFinset

theorem mem_addressSet {is : List Instance} {a : String} :
    a ∈ addressSet is ↔ hasAddress is a = true := by
  rw [addressSet, List.mem_toFinset, hasAddress_iff]

theorem kindsOf_map_mk (k : ChangeKind) {is : List Instance}
    (h : (is.map (·.address)).Nodup) (a : String) :
    kindsOf a (is.map (Change.mk · k)) = if hasAddress is a then [k] else [] := by
  induction is with
  | nil => rfl
  | cons i rest ih =>
    rw [List.map_cons, List.nodup_cons] at h
    have hcons : kindsOf a ((i :: rest).map (Change.mk · k)) =
        kindsOf a [⟨i, k⟩] ++ kindsOf a (rest.map (Change.mk · k)) := kindsOf_append a [_] _
    rw [hcons, ih h.2, kindsOf_singleton, hasAddress_cons]
    by_cases hi : i.address = a
    · have hrest : hasAddress rest a = false := by
        rw [Bool.eq_false_iff, ne_eq, hasAddress_iff, ← hi]
        exact h.1
      simp [hi, hrest]
    · simp [hi]

/-! ## What a difference says of an address -/

theorem hasAddress_filter_distinct (is others : List Instance) (a : String) :
    hasAddress ((distinct is).filter fun i => !hasAddress others i.address) a =
      (hasAddress is a && !hasAddress others a) := by
  rw [Bool.eq_iff_iff, Bool.and_eq_true, ← hasAddress_distinct is, hasAddress_iff, hasAddress_iff,
    List.mem_map, List.mem_map]
  constructor
  · rintro ⟨i, hi, rfl⟩
    exact ⟨⟨i, (List.mem_filter.mp hi).1, rfl⟩, (List.mem_filter.mp hi).2⟩
  · rintro ⟨⟨i, hi, rfl⟩, hlacks⟩
    exact ⟨i, List.mem_filter.mpr ⟨hi, hlacks⟩, rfl⟩

theorem nodup_filter_distinct (is : List Instance) (p : Instance → Bool) :
    (((distinct is).filter p).map (·.address)).Nodup :=
  (List.filter_sublist.map _).nodup (nodup_map_address_distinct is)

/-- A difference says one thing of an address that is in one of the lists only, and nothing of any
other. -/
theorem kindsOf_difference (old new : List Instance) (a : String) :
    kindsOf a (difference old new) =
      match hasAddress old a, hasAddress new a with
      | true, false => [.deregistered]
      | false, true => [.registered]
      | _, _ => [] := by
  unfold difference
  rw [kindsOf_append]
  show kindsOf a (List.map (Change.mk · .deregistered) _) ++
    kindsOf a (List.map (Change.mk · .registered) _) = _
  rw [kindsOf_map_mk _ (nodup_filter_distinct old _),
    kindsOf_map_mk _ (nodup_filter_distinct new _), hasAddress_filter_distinct,
    hasAddress_filter_distinct]
  cases hasAddress old a <;> cases hasAddress new a <;> rfl

theorem difference_nil {is : List Instance} (h : (is.map (·.address)).Nodup) :
    difference [] is = is.map Change.joined := by
  show [] ++ ((distinct is).filter _).map Change.joined = _
  rw [List.nil_append, distinct_eq_self h, List.filter_eq_self.mpr]
  intro i _
  rfl

theorem hasAddress_eq_of_difference_eq_nil {old new : List Instance}
    (h : difference old new = []) (a : String) : hasAddress old a = hasAddress new a := by
  have hkinds := kindsOf_difference old new a
  rw [h, kindsOf_nil] at hkinds
  cases hold : hasAddress old a <;> cases hnew : hasAddress new a
  · rfl
  · rw [hold, hnew] at hkinds
    cases hkinds
  · rw [hold, hnew] at hkinds
    cases hkinds
  · rfl

theorem difference_eq_nil {old new : List Instance}
    (h : ∀ a, hasAddress old a = hasAddress new a) : difference old new = [] := by
  unfold difference
  rw [List.append_eq_nil_iff, List.map_eq_nil_iff, List.map_eq_nil_iff, List.filter_eq_nil_iff,
    List.filter_eq_nil_iff]
  refine ⟨fun i hi => ?_, fun i hi => ?_⟩
  · have hold := hasAddress_iff.mpr (List.mem_map_of_mem (mem_of_mem_distinct hi))
    rw [← h, hold]
    exact Bool.false_ne_true
  · have hnew := hasAddress_iff.mpr (List.mem_map_of_mem (mem_of_mem_distinct hi))
    rw [h, hnew]
    exact Bool.false_ne_true

theorem length_filter_distinct (is others : List Instance) :
    ((distinct is).filter fun i => !hasAddress others i.address).length =
      (addressSet is \ addressSet others).card := by
  rw [← List.length_map (f := (·.address)),
    ← List.toFinset_card_of_nodup (nodup_filter_distinct is _)]
  congr 1
  ext a
  rw [List.mem_toFinset, ← hasAddress_iff, hasAddress_filter_distinct, Finset.mem_sdiff,
    mem_addressSet, mem_addressSet, Bool.and_eq_true, Bool.not_eq_true', Bool.not_eq_true]

/-- A difference has one change for each address that left and for each one that entered. -/
theorem length_difference (old new : List Instance) :
    (difference old new).length =
      (addressSet old \ addressSet new).card + (addressSet new \ addressSet old).card := by
  unfold difference
  rw [List.length_append, List.length_map, List.length_map, length_filter_distinct,
    length_filter_distinct]

/-! ## Taking turns -/

/-- Kinds that take turns, beginning with an arrival. -/
def TakesTurns (ks : List ChangeKind) : Prop :=
  (ChangeKind.deregistered :: ks).IsChain (· ≠ ·)

theorem takesTurns_nil : TakesTurns [] := List.isChain_singleton _

/-- What is said next differs from what was said last; an address of which nothing was said counts
as one that left. -/
theorem TakesTurns.concat {ks : List ChangeKind} (h : TakesTurns ks) {k : ChangeKind}
    (hk : ks.getLast?.getD .deregistered ≠ k) : TakesTurns (ks ++ [k]) := by
  unfold TakesTurns
  rw [← List.cons_append, List.isChain_append]
  refine ⟨h, List.isChain_singleton k, ?_⟩
  intro x hx y hy
  rw [List.getLast?_cons, Option.mem_some_iff] at hx
  rw [List.head?_singleton, Option.mem_some_iff] at hy
  rw [← hx, ← hy]
  exact hk

/-! ## Sets of addresses -/

def Change.appliedTo (s : Finset String) (c : Change) : Finset String :=
  match c.kind with
  | .registered => insert c.member.address s
  | .deregistered => s.erase c.member.address

/-- The addresses that a stream of changes leaves when it starts without any. -/
def foldAddresses (cs : List Change) : Finset String := cs.foldl Change.appliedTo ∅

theorem foldAddresses_concat (cs : List Change) (c : Change) :
    foldAddresses (cs ++ [c]) = c.appliedTo (foldAddresses cs) := by
  rw [foldAddresses, List.foldl_append]
  rfl

theorem mem_foldAddresses {cs : List Change} {a : String} :
    a ∈ foldAddresses cs ↔ (kindsOf a cs).getLast? = some .registered := by
  induction cs using List.reverseRecOn with
  | nil => simp [foldAddresses]
  | append_singleton cs c ih =>
    rw [foldAddresses_concat, kindsOf_append, kindsOf_singleton, Change.appliedTo]
    by_cases hc : c.member.address = a
    · rw [if_pos hc, List.getLast?_concat, Option.some.injEq]
      cases c.kind <;> simp [hc]
    · rw [if_neg hc, List.append_nil, ← ih]
      cases c.kind <;> simp [Ne.symm hc]

/-! ## Streams that track members -/

/-- The changes lead to the members of a list: every address takes turns, and it was last said to
join exactly if it is in the list. -/
def Tracks (cs : List Change) (is : List Instance) : Prop :=
  ∀ a, TakesTurns (kindsOf a cs) ∧
    (hasAddress is a = true ↔ (kindsOf a cs).getLast? = some .registered)

theorem tracks_nil : Tracks [] [] := fun _ => ⟨takesTurns_nil, by simp [hasAddress]⟩

/-- A stream that leads to one list leads to another when the difference is added to it. -/
theorem Tracks.append_difference {cs : List Change} {old : List Instance} (h : Tracks cs old)
    (new : List Instance) : Tracks (cs ++ difference old new) new := by
  intro a
  obtain ⟨hturns, hlast⟩ := h a
  rw [kindsOf_append, kindsOf_difference]
  cases hold : hasAddress old a <;> cases hnew : hasAddress new a <;>
    rw [hold] at hlast <;> dsimp only
  · rw [List.append_nil]
    exact ⟨hturns, hlast⟩
  · refine ⟨hturns.concat ?_, by rw [List.getLast?_concat]; exact ⟨fun _ => rfl, fun _ => rfl⟩⟩
    intro hk
    cases hks : (kindsOf a cs).getLast? with
    | none =>
      rw [hks] at hk
      cases hk
    | some k =>
      rw [hks, Option.getD_some] at hk
      exact absurd (hlast.mpr (hks.trans (congrArg some hk))) Bool.false_ne_true
  · refine ⟨hturns.concat ?_, by rw [List.getLast?_concat]; exact ⟨nofun, nofun⟩⟩
    rw [hlast.mp rfl, Option.getD_some]
    exact nofun
  · rw [List.append_nil]
    exact ⟨hturns, hlast⟩

theorem tracks_map_joined {is : List Instance} (h : (is.map (·.address)).Nodup) :
    Tracks (is.map Change.joined) is := by
  rw [← difference_nil h]
  exact tracks_nil.append_difference is

theorem Tracks.foldAddresses_eq {cs : List Change} {is : List Instance} (h : Tracks cs is) :
    foldAddresses cs = addressSet is := by
  ext a
  rw [mem_foldAddresses, mem_addressSet, (h a).2]

end Roster
