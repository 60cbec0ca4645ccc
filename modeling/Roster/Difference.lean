import Roster.Instance

/-!
# Differences of member lists

Members are told apart by their address. `distinct` keeps the first member of each address, and
`difference old new` lists the departures in the order of `old`, then the arrivals in the order of
`new`. A set of addresses is the view that changes act on: `addressesAfter?` applies a list of
changes to it.
-/

namespace Roster

def hasAddress (is : List Instance) (address : String) : Bool :=
  is.any (·.address == address)

/-- The first member of each address, in the list's order. -/
def distinct : List Instance → List Instance
  | [] => []
  | i :: rest => i :: (distinct rest).filter (·.address != i.address)

/-- The changes that lead from one member list to another: first the members of `old` whose address
`new` lacks, then those of `new` whose address `old` lacks, each address once. -/
def difference (old new : List Instance) : List Change :=
  ((distinct old).filter (fun i => !hasAddress new i.address)).map Change.departed ++
    ((distinct new).filter (fun i => !hasAddress old i.address)).map Change.joined

/-! ## Small lemmas -/

@[simp] theorem hasAddress_nil (a : String) : hasAddress [] a = false := rfl

@[simp] theorem hasAddress_cons (i : Instance) (is : List Instance) (a : String) :
    hasAddress (i :: is) a = (i.address == a || hasAddress is a) := rfl

theorem hasAddress_iff {is : List Instance} {a : String} :
    hasAddress is a = true ↔ a ∈ is.map (·.address) := by
  simp [hasAddress, List.any_eq_true]

theorem mem_of_mem_distinct {i : Instance} {is : List Instance} (h : i ∈ distinct is) : i ∈ is := by
  induction is with
  | nil => simp [distinct] at h
  | cons j rest ih =>
    simp only [distinct, List.mem_cons, List.mem_filter] at h
    rcases h with h | h
    · simp [h]
    · exact List.mem_cons_of_mem _ (ih h.1)

theorem mem_map_address_distinct {is : List Instance} {a : String} :
    a ∈ (distinct is).map (·.address) ↔ a ∈ is.map (·.address) := by
  induction is with
  | nil => simp [distinct]
  | cons i rest ih =>
    simp only [distinct, List.map_cons, List.mem_cons]
    by_cases h : a = i.address
    · simp [h]
    · simp only [h, false_or, ← ih, List.mem_map, List.mem_filter, bne_iff_ne, ne_eq]
      constructor
      · rintro ⟨j, ⟨hj, _⟩, rfl⟩
        exact ⟨j, hj, rfl⟩
      · rintro ⟨j, hj, rfl⟩
        exact ⟨j, ⟨hj, h⟩, rfl⟩

theorem hasAddress_distinct (is : List Instance) (a : String) :
    hasAddress (distinct is) a = hasAddress is a := by
  rw [Bool.eq_iff_iff, hasAddress_iff, hasAddress_iff, mem_map_address_distinct]

theorem nodup_map_address_distinct (is : List Instance) :
    ((distinct is).map (·.address)).Nodup := by
  induction is with
  | nil => simp [distinct]
  | cons i rest ih =>
    simp only [distinct, List.map_cons, List.nodup_cons]
    refine ⟨?_, (List.filter_sublist.map _).nodup ih⟩
    simp only [List.mem_map, List.mem_filter, bne_iff_ne, ne_eq, not_exists, not_and, and_imp]
    exact fun j _ hj he => hj he

theorem distinct_eq_self {is : List Instance} (h : (is.map (·.address)).Nodup) :
    distinct is = is := by
  induction is with
  | nil => rfl
  | cons i rest ih =>
    simp only [List.map_cons, List.nodup_cons] at h
    rw [distinct, ih h.2, List.filter_eq_self.mpr]
    intro j hj
    simp only [bne_iff_ne, ne_eq]
    exact fun he => h.1 (he ▸ List.mem_map_of_mem hj)

/-! ## Changes as operations on a set of addresses -/

/-- One change applied to a list of addresses: an arrival that is not there joins at the end, a
departure that is there leaves, and every other change does not apply. -/
def Change.applyTo? (addresses : List String) (c : Change) : Option (List String) :=
  match c.kind with
  | .registered =>
    if c.member.address ∈ addresses then none else some (addresses ++ [c.member.address])
  | .deregistered =>
    if c.member.address ∈ addresses then some (addresses.erase c.member.address) else none

/-- The addresses left after changes are applied in turn, if each of them applies. -/
def addressesAfter? (addresses : List String) : List Change → Option (List String)
  | [] => some addresses
  | c :: rest => (c.applyTo? addresses).bind fun next => addressesAfter? next rest

end Roster
