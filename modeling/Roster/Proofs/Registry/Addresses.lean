import Mathlib.Data.Finset.Card
import Mathlib.Data.Finset.Dedup
import Mathlib.Data.Finset.Image
import Roster.Proofs.Difference.Exact
import Roster.Proofs.Registry.Adoption

/-!
# Addresses tell entries apart

Members are told apart by their address alone, and an address is the text of an entry. No digit is a
colon, so the last colon of an address is the one behind the host, even if there are colons in the
host (`splitAtLast?_eq_some_iff`). An address is therefore read back as its entry
(`ofAddress?_address`), and different entries have different addresses. What a query brings then has
a member for each of its entries (`membersFrom_eq`), at the place where the entry first comes.
-/

namespace Roster

/-! ## Reading addresses -/

/-- The parts of a text before and after the last one of its marks. -/
def splitAtLast? (mark : Char) : List Char → Option (List Char × List Char)
  | [] => none
  | c :: rest =>
    match splitAtLast? mark rest with
    | some (before, after) => some (c :: before, after)
    | none => if c = mark then some ([], rest) else none

theorem splitAtLast?_eq_none {mark : Char} {cs : List Char} (h : mark ∉ cs) :
    splitAtLast? mark cs = none := by
  induction cs with
  | nil => rfl
  | cons c rest ih =>
    rw [List.mem_cons, not_or] at h
    rw [splitAtLast?, ih h.2]
    exact if_neg (Ne.symm h.1)

theorem splitAtLast?_append {mark : Char} (before : List Char) {after : List Char}
    (h : mark ∉ after) : splitAtLast? mark (before ++ mark :: after) = some (before, after) := by
  induction before with
  | nil =>
    rw [List.nil_append, splitAtLast?, splitAtLast?_eq_none h]
    exact if_pos rfl
  | cons c before ih => rw [List.cons_append, splitAtLast?, ih]

theorem splitAtLast?_eq_some_iff {mark : Char} {cs before after : List Char} :
    splitAtLast? mark cs = some (before, after) ↔ cs = before ++ mark :: after ∧ mark ∉ after := by
  constructor
  · intro h
    by_cases hmark : mark ∈ cs
    · obtain ⟨behind, front, hcs, hout⟩ := List.eq_append_cons_of_mem (List.mem_reverse.mpr hmark)
      have hparts : cs = front.reverse ++ mark :: behind.reverse := by
        rw [← List.reverse_reverse cs, hcs]
        simp
      have hbehind : mark ∉ behind.reverse := fun hmem => hout (List.mem_reverse.mp hmem)
      rw [hparts, splitAtLast?_append _ hbehind] at h
      cases h
      exact ⟨hparts, hbehind⟩
    · rw [splitAtLast?_eq_none hmark] at h
      cases h
  · rintro ⟨rfl, hafter⟩
    exact splitAtLast?_append before hafter

def portOf? (ds : List Char) : Option Nat :=
  if ds.isEmpty || !ds.all Char.isDigit then none else some (Nat.ofDigitChars 10 ds 0)

theorem portOf?_portDigits (port : Nat) : portOf? (portDigits port) = some port := by
  have hdigits : (portDigits port).all Char.isDigit = true :=
    List.all_eq_true.mpr fun _ => isDigit_of_mem_portDigits
  have hne : (portDigits port).isEmpty = false := List.isEmpty_eq_false_iff.mpr Nat.toDigits_ne_nil
  rw [portOf?, hdigits, hne]
  exact congrArg some (Nat.ofDigitChars_toDigits (by decide) (by decide))

namespace CatalogEntry

/-- Reads an address: the host stands before its last colon, the port after it. -/
def ofAddress? (address : String) : Option CatalogEntry :=
  (splitAtLast? ':' address.toList).bind fun parts =>
    (portOf? parts.2).map fun port => ⟨String.ofList parts.1, port⟩

/-- Whatever the host is, the last colon of an address is the one that was put behind it. -/
theorem splitAtLast?_address (e : CatalogEntry) :
    splitAtLast? ':' e.address.toList = some (e.node.toList, portDigits e.port) := by
  rw [splitAtLast?_eq_some_iff, address, String.toList_ofList]
  exact ⟨rfl, fun hcolon => absurd (isDigit_of_mem_portDigits hcolon) (by decide)⟩

theorem ofAddress?_address (e : CatalogEntry) : ofAddress? e.address = some e := by
  rw [ofAddress?, splitAtLast?_address, Option.bind_some, portOf?_portDigits, Option.map_some,
    String.ofList_toList]

theorem address_injective : Function.Injective address := by
  intro e e' h
  have hread := congrArg ofAddress? h
  rw [ofAddress?_address, ofAddress?_address] at hread
  exact Option.some.inj hread

end CatalogEntry

namespace PollingRegistry

/-! ## One member for each entry -/

/-- The different entries of a list, in the order in which they first come. -/
def firstEntries (entries : List CatalogEntry) : List CatalogEntry :=
  (entries.zipIdx.filter fun p => p.1 ∉ entries.take p.2).map (·.1)

/-- The members are the different entries of a list, in the order in which they first come, and each
address is read back as the entry that it stands for. -/
structure KeepsApart (is : List Instance) (service : String) (entries : List CatalogEntry) :
    Prop where
  members_eq : is = (firstEntries entries).map fun e => ⟨service, e.address⟩
  length_eq : is.length = entries.toFinset.card
  read_eq : is.map (CatalogEntry.ofAddress? ·.address) = (firstEntries entries).map some

variable {options : PollingOptions}

theorem hasAddress_map_address (service : String) (entries : List CatalogEntry)
    (e : CatalogEntry) :
    hasAddress (entries.map fun e => ⟨service, e.address⟩) e.address = decide (e ∈ entries) := by
  rw [Bool.eq_iff_iff, hasAddress_iff, List.map_map, decide_eq_true_eq]
  exact List.mem_map_of_injective CatalogEntry.address_injective

/-- No member is left out because its address is another entry's too. -/
theorem membersFrom_eq (service : String) (entries : List CatalogEntry) :
    membersFrom service entries = (firstEntries entries).map fun e => ⟨service, e.address⟩ := by
  have hdistinct (is : List Instance) : distinct is = firstsWithout [] is := by
    rw [firstsWithout_eq]
    exact (List.filter_eq_self.mpr fun _ _ => rfl).symm
  rw [membersFrom, hdistinct, firstsWithout, firstEntries, List.zipIdx_map, List.filter_map,
    List.map_map, List.map_map]
  congr 1
  -- An address stands before a place exactly if its entry does, which is where injectivity counts.
  refine List.filter_congr fun p _ => ?_
  rw [Function.comp_apply, Prod.map_fst, Prod.map_snd, ← List.map_take, id_eq,
    hasAddress_map_address]
  simp

theorem length_membersFrom (service : String) (entries : List CatalogEntry) :
    (membersFrom service entries).length = entries.toFinset.card := by
  have haddresses : addressSet (membersFrom service entries) =
      entries.toFinset.image CatalogEntry.address := by
    ext a
    rw [mem_addressSet, membersFrom, hasAddress_distinct, hasAddress_iff, List.map_map,
      Finset.mem_image, List.mem_map]
    simp
  calc (membersFrom service entries).length
      = (addressSet (membersFrom service entries)).card := by
        rw [addressSet, membersFrom, List.toFinset_card_of_nodup (nodup_map_address_distinct _),
          List.length_map]
    _ = entries.toFinset.card := by
        rw [haddresses, Finset.card_image_of_injective _ CatalogEntry.address_injective]

theorem keepsApart_membersFrom (service : String) (entries : List CatalogEntry) :
    KeepsApart (membersFrom service entries) service entries where
  members_eq := membersFrom_eq service entries
  length_eq := length_membersFrom service entries
  read_eq := by
    rw [membersFrom_eq, List.map_map]
    refine List.map_congr_left fun e _ => ?_
    simp only [Function.comp_apply, CatalogEntry.ofAddress?_address]

/-! ## What is shown -/

/-- An address is read back as its entry, at its last colon, so different entries have different
addresses. A query that ends with entries, in whatever state of the registry, leaves its service
with as many members as there are different entries, in the order in which they first come. So it is
at any time: the members of a service keep the entries apart that the last query about it brought. -/
theorem entries_kept_apart {catalog : Catalog} {inRuntime : Bool} {start : PollingRegistry}
    (hcreate : create catalog options inRuntime = .ok start) (actions : List Action) :
    let r := start.performAll actions
    (∀ e : CatalogEntry, CatalogEntry.ofAddress? e.address = some e) ∧
    Function.Injective CatalogEntry.address ∧
    (∀ m service entries, m.isSingle = true →
      r.ending? m = some (service, .completed (.ok entries)) →
      KeepsApart ((r.perform m).state.instances service) service entries) ∧
    start.Reaches r ∧
    ∀ moments, (∀ m ∈ moments, m.isSingle = true) → start.performAll moments = r →
      ∀ service, match lastEntries? service (start.endings moments) with
        | some entries => KeepsApart (r.state.instances service) service entries
        | none => r.state.instances service = [] := by
  intro r
  have hstart : start.Recorded options catalog := recorded_create hcreate
  refine ⟨CatalogEntry.ofAddress?_address, CatalogEntry.address_injective,
    fun m service entries hm hends => ?moment, hstart.reaches_performAll actions,
    fun moments hmoments hr service => ?always⟩
  case moment =>
    have hmembers := r.instances_perform_moment hm service
    rw [hends] at hmembers
    have hlast : lastEntries? service [(service, .completed (.ok entries))] = some entries := by
      simp [lastEntries?, Ending.entries?]
    rw [Option.toList_some, hlast, Option.map_some, Option.getD_some] at hmembers
    rw [hmembers]
    exact keepsApart_membersFrom service entries
  case always =>
    have hmembers := instances_performAll (r := start) hmoments service
    rw [hr, instances_create hcreate] at hmembers
    rw [hmembers]
    cases lastEntries? service (start.endings moments) with
    | none => rfl
    | some entries => exact keepsApart_membersFrom service entries

/-- Two addresses differ in a colon only, one host is empty, and two entries come twice. -/
theorem entries_kept_apart_colons :
    let entries : List CatalogEntry :=
      [⟨"a:1", 8⟩, ⟨"a", 18⟩, ⟨"a:1", 8⟩, ⟨"", 1⟩, ⟨"::1", 8⟩, ⟨"", 1⟩]
    let catalog := Catalog.ofLists (Table.empty.set "users" [{ result := .ok entries }])
    let start : PollingRegistry := { options := {}, catalog, state := State.new 64 }
    let next := (start.performAll [.watch 0 "users"]).perform (.step 0 {})
    next.state.instances "users" =
        [⟨"users", "a:1:8"⟩, ⟨"users", "a:18"⟩, ⟨"users", ":1"⟩, ⟨"users", "::1:8"⟩] ∧
      entries.toFinset.card = 4 ∧
      (next.state.instances "users").map (CatalogEntry.ofAddress? ·.address) =
        [some ⟨"a:1", 8⟩, some ⟨"a", 18⟩, some ⟨"", 1⟩, some ⟨"::1", 8⟩] := by
  intro entries catalog start next
  have hcreate : create catalog {} true = .ok start := rfl
  obtain ⟨_, _, hmoment, _⟩ := entries_kept_apart hcreate [.watch 0 "users"]
  have hapart : KeepsApart (next.state.instances "users") "users" entries :=
    hmoment (.step 0 {}) "users" entries rfl rfl
  have hmembers : next.state.instances "users" =
      [⟨"users", "a:1:8"⟩, ⟨"users", "a:18"⟩, ⟨"users", ":1"⟩, ⟨"users", "::1:8"⟩] := by
    rw [hapart.members_eq]
    decide
  refine ⟨hmembers, ?_, ?_⟩
  · rw [← hapart.length_eq, hmembers]
    rfl
  · rw [hapart.read_eq]
    decide

end PollingRegistry

end Roster
