import Roster.Dialer
import Roster.Proofs.Picker

/-!
# The picker of a channel follows its connections

Only some operations on the connections of a channel build a new picker, and a list of members that
leaves the ready addresses as they are builds none. The invariant `Coherent` says that the current
picker is still the one that would be built now. It rests on `ready_bringIn`: a list of members
takes addresses from the ready connections and adds addresses that were not held, so connections to
the same addresses are the same connections (`ready_bringIn_eq`).
-/

namespace Roster.Connections

open PickerBuilder

variable {σ C : Type}

/-! ## Runs -/

/-- What can happen to the connections of a channel. -/
inductive Action where
  | update (members : List Instance)
  | markReady (address : String)
  | markUnready (address : String)
  | close
  | pick (draw : Nat) (call : Call)

/-- The connections, and what the connector records, after something happened. -/
def perform (connect : Connector σ C) (s : Connections C × σ) : Action → Connections C × σ
  | .update members => (sink connect s members).2
  | .markReady address => (s.1.markReady address, s.2)
  | .markUnready address => (s.1.markUnready address, s.2)
  | .close => (s.1.close, s.2)
  | .pick _ _ => s

def after (connect : Connector σ C) (options : ShardOptions) (w : σ) (actions : List Action) :
    Connections C :=
  (actions.foldl (perform connect) (new options, w)).1

/-! ## Connecting -/

/-- Connecting keeps what is held and adds only listed addresses that are not held. -/
theorem entries_connectAll (connect : Connector σ C) (held : Table C) (w : σ)
    (members : List Instance) :
    ∃ fresh, (connectAll connect held w members).1.entries = held.entries ++ fresh ∧
      ∀ e ∈ fresh, held.get? e.1 = none ∧ hasAddress members e.1 = true := by
  induction members generalizing held w with
  | nil => exact ⟨[], (List.append_nil _).symm, by simp⟩
  | cons m rest ih =>
    have hlisted : ∀ a, hasAddress rest a = true → hasAddress (m :: rest) a = true := by
      intro a ha
      rw [hasAddress_cons, ha, Bool.or_true]
    unfold connectAll
    split
    · obtain ⟨fresh, hentries, hfresh⟩ := ih held w
      exact ⟨fresh, hentries, fun e he => ⟨(hfresh e he).1, hlisted _ (hfresh e he).2⟩⟩
    · next hheld =>
      rw [Bool.not_eq_true, Option.isSome_eq_false_iff, Option.isNone_iff_eq_none] at hheld
      split
      · next c w' _ =>
        obtain ⟨fresh, hentries, hfresh⟩ := ih (held.set m.address c) w'
        refine ⟨(m.address, c) :: fresh, ?_, ?_⟩
        · rw [hentries, Table.entries_set_of_get?_eq_none c hheld, List.append_assoc]
          rfl
        · intro e he
          rcases List.mem_cons.mp he with rfl | he
          · exact ⟨hheld, by simp [hasAddress]⟩
          · obtain ⟨hnone, haddress⟩ := hfresh e he
            rw [Table.get?_set] at hnone
            split at hnone
            · cases hnone
            · exact ⟨hnone, hlisted _ haddress⟩
      · next w' _ =>
        obtain ⟨fresh, hentries, hfresh⟩ := ih held w'
        exact ⟨fresh, hentries, fun e he => ⟨(hfresh e he).1, hlisted _ (hfresh e he).2⟩⟩

theorem get?_connectAll_of_held (connect : Connector σ C) {held : Table C} (w : σ)
    (members : List Instance) {a : String} {c : C} (h : held.get? a = some c) :
    (connectAll connect held w members).1.get? a = some c := by
  obtain ⟨fresh, hentries, _⟩ := entries_connectAll connect held w members
  rw [Table.get?_eq_some_iff] at h ⊢
  rw [hentries]
  exact List.mem_append_left _ h

/-! ## Bringing in a list of members -/

variable (c : Connections C) (connect : Connector σ C) (w : σ) (members : List Instance)

theorem get?_ready {a : String} {v : C} :
    c.ready.get? a = some v ↔ c.held.get? a = some v ∧ a ∉ c.unready := by
  rw [ready, Table.get?_filter]
  by_cases h : a ∈ c.unready <;> simp [h]

theorem mem_readyAddresses {a : String} :
    a ∈ c.readyAddresses ↔ (c.held.get? a).isSome = true ∧ a ∉ c.unready := by
  rw [readyAddresses, List.mem_mergeSort, Table.mem_keys_iff, Option.isSome_iff_exists,
    Option.isSome_iff_exists, ← exists_and_right]
  exact exists_congr fun _ => get?_ready c

theorem get?_held_retain (a : String) :
    (c.retain members).held.get? a = if hasAddress members a then c.held.get? a else none :=
  Table.get?_filter c.held _ a

theorem mem_unready_retain {a : String} :
    a ∈ (c.retain members).unready ↔
      a ∈ c.unready ∧ ((c.retain members).held.get? a).isSome = true :=
  List.mem_filter

/-- A list of members leaves ready what is listed, and makes ready what was not held. -/
theorem ready_bringIn :
    ∃ fresh, (c.bringIn connect w members).1.ready.entries =
        c.ready.entries.filter (fun e => hasAddress members e.1) ++ fresh ∧
      ∀ e ∈ fresh, c.held.get? e.1 = none := by
  obtain ⟨fresh, hentries, hfresh⟩ := entries_connectAll connect (c.retain members).held w members
  refine ⟨fresh, ?_, ?_⟩
  · show (connectAll connect (c.retain members).held w members).1.entries.filter
        (fun e => !(c.retain members).unready.contains e.1) = _
    rw [hentries, List.filter_append]
    congr 1
    · show (c.held.entries.filter _).filter _ = (c.held.entries.filter _).filter _
      rw [List.filter_filter, List.filter_filter]
      refine List.filter_congr fun e he => ?_
      have hheld : c.held.get? e.1 = some e.2 := (Table.get?_eq_some_iff _ _ _).mpr he
      by_cases hm : hasAddress members e.1 = true
      · simp [mem_unready_retain, get?_held_retain, hm, hheld]
      · simp [hm]
    · rw [List.filter_eq_self]
      intro e he
      simp [mem_unready_retain, (hfresh e he).1]
  · intro e he
    have hnone := (hfresh e he).1
    rw [get?_held_retain, if_pos (hfresh e he).2] at hnone
    exact hnone

/-- If a list of members leaves the same addresses ready, it leaves the same connections ready. -/
theorem ready_bringIn_eq
    (h : c.readyAddresses = (c.bringIn connect w members).1.readyAddresses) :
    (c.bringIn connect w members).1.ready = c.ready := by
  obtain ⟨fresh, hentries, hfresh⟩ := ready_bringIn c connect w members
  have hperm : c.ready.keys.Perm (c.bringIn connect w members).1.ready.keys :=
    (List.mergeSort_perm _ _).symm.trans ((List.Perm.of_eq h).trans (List.mergeSort_perm _ _))
  -- An address that was made ready was ready before, although it was not even held.
  have hnil : fresh = [] := by
    rw [List.eq_nil_iff_forall_not_mem]
    intro e he
    have hkey : e.1 ∈ (c.bringIn connect w members).1.ready.keys := by
      rw [Table.keys, hentries, List.map_append]
      exact List.mem_append_right _ (List.mem_map_of_mem he)
    obtain ⟨v, hv⟩ := Option.isSome_iff_exists.mp
      ((Table.mem_keys_iff _ _).mp (hperm.mem_iff.mpr hkey))
    have hheld := ((get?_ready c).mp hv).1
    rw [hfresh e he] at hheld
    cases hheld
  rw [hnil, List.append_nil] at hentries
  have hall : c.ready.entries.filter (fun e => hasAddress members e.1) = c.ready.entries := by
    rw [List.filter_eq_self, ← List.length_filter_eq_length_iff, ← hentries]
    have hlength := hperm.length_eq
    rw [Table.keys, Table.keys, List.length_map, List.length_map] at hlength
    exact hlength.symm
  exact Table.ext (hentries.trans hall)

/-! ## Connectors that always give an address the same answer -/

section Verdict

variable {c connect w members} {accepts : String → Bool}

theorem isSome_get?_connectAll (hverdict : ∀ w m, (connect w m).1.isOk = accepts m.address)
    (held : Table C) (w : σ) (members : List Instance) (a : String) :
    ((connectAll connect held w members).1.get? a).isSome =
      ((held.get? a).isSome || hasAddress members a && accepts a) := by
  induction members generalizing held w with
  | nil => simp [connectAll]
  | cons m rest ih =>
    have hm := hverdict w m
    rw [hasAddress_cons]
    unfold connectAll
    split
    · next hheld =>
      rw [ih]
      cases ha : m.address == a with
      | true => simp [← eq_of_beq ha, hheld]
      | false => rw [Bool.false_or]
    · split
      · next v w' hconnect =>
        rw [hconnect] at hm
        rw [ih, Table.get?_set]
        cases ha : m.address == a with
        | true => simp [← eq_of_beq ha, ← hm, Except.isOk, Except.toBool]
        | false => rw [if_neg (ne_of_beq_false ha), Bool.false_or]
      · next e w' hconnect =>
        rw [hconnect] at hm
        rw [ih]
        cases ha : m.address == a with
        | true => simp [← eq_of_beq ha, ← hm, Except.isOk, Except.toBool]
        | false => rw [Bool.false_or]

theorem held_sink (hopen : c.isClosed = false) :
    (sink connect (c, w) members).2.1.held = (c.bringIn connect w members).1.held ∧
      (sink connect (c, w) members).2.1.isClosed = false := by
  unfold Connections.sink update
  dsimp only
  rw [hopen, if_neg Bool.false_ne_true]
  cases !c.isBuilt || c.readyAddresses != (c.bringIn connect w members).1.readyAddresses with
  | true => exact ⟨rfl, hopen⟩
  | false => exact ⟨rfl, hopen⟩

/-- After a list of members was brought in, exactly the listed addresses that the connector accepts
are held, if all those held before were accepted. -/
theorem isSome_get?_held_sink (hverdict : ∀ w m, (connect w m).1.isOk = accepts m.address)
    (hopen : c.isClosed = false)
    (haccepted : ∀ a, (c.held.get? a).isSome = true → accepts a = true) (a : String) :
    ((sink connect (c, w) members).2.1.held.get? a).isSome =
      (hasAddress members a && accepts a) := by
  rw [(held_sink hopen).1]
  show ((connectAll connect (c.retain members).held w members).1.get? a).isSome = _
  rw [isSome_get?_connectAll hverdict, get?_held_retain]
  cases hlisted : hasAddress members a with
  | false => rfl
  | true =>
    cases hheld : (c.held.get? a).isSome with
    | false => simp [hheld]
    | true => simp [hheld, haccepted a hheld]

end Verdict

/-! ## The invariant -/

/-- The picker is the one that would be built now, if there is one. -/
structure Coherent (options : ShardOptions) (c : Connections C) : Prop where
  unready_held : ∀ a ∈ c.unready, (c.held.get? a).isSome = true
  options_eq : c.balancer.builder.options = options
  picker_eq : ∀ p, c.balancer.picker = some p → p = pickerFor options c.ready
  built : c.isBuilt = true → c.balancer.picker.isSome = true
  /-- Without a picker there are no connections. -/
  unbuilt : c.balancer.picker = none → c.held = Table.empty

variable {c connect w members} {options : ShardOptions}

theorem coherent_new : Coherent options (new options : Connections C) where
  unready_held _ ha := nomatch ha
  options_eq := rfl
  picker_eq _ hp := nomatch hp
  built hb := nomatch hb
  unbuilt _ := rfl

theorem coherent_rebuild (hunready : ∀ a ∈ c.unready, (c.held.get? a).isSome = true)
    (hoptions : c.balancer.builder.options = options) : Coherent options c.rebuild where
  unready_held := hunready
  options_eq := hoptions
  picker_eq p hp := by
    subst hoptions
    exact (Option.some.inj hp).symm
  built _ := rfl
  unbuilt hnone := nomatch hnone

theorem Coherent.markReady (h : Coherent options c) (a : String) :
    Coherent options (c.markReady a) := by
  unfold Connections.markReady
  split
  · exact coherent_rebuild (fun b hb => h.unready_held b (List.mem_filter.mp hb).1) h.options_eq
  · exact h

theorem Coherent.markUnready (h : Coherent options c) (a : String) :
    Coherent options (c.markUnready a) := by
  unfold Connections.markUnready
  split
  · next hmark =>
    refine coherent_rebuild (fun b hb => ?_) h.options_eq
    rcases List.mem_cons.mp hb with rfl | hb
    · exact (Bool.and_eq_true_iff.mp hmark).1
    · exact h.unready_held b hb
  · exact h

theorem Coherent.close (h : Coherent options c) : Coherent options c.close := by
  unfold Connections.close
  split
  · exact h
  · exact {
      unready_held := fun a ha => nomatch ha
      options_eq := h.options_eq
      picker_eq := fun p hp => by
        obtain rfl := h.options_eq
        exact (Option.some.inj hp).symm
      built := fun _ => rfl
      unbuilt := fun hnone => nomatch hnone }

theorem unready_held_bringIn {a : String} (ha : a ∈ (c.bringIn connect w members).1.unready) :
    ((c.bringIn connect w members).1.held.get? a).isSome = true := by
  obtain ⟨v, hv⟩ := Option.isSome_iff_exists.mp ((mem_unready_retain c members).mp ha).2
  exact Option.isSome_iff_exists.mpr ⟨v, get?_connectAll_of_held connect w members hv⟩

theorem Coherent.bringIn (h : Coherent options c) (hbuilt : c.isBuilt = true)
    (hready : c.readyAddresses = (c.bringIn connect w members).1.readyAddresses) :
    Coherent options (c.bringIn connect w members).1 where
  unready_held _ := unready_held_bringIn
  options_eq := h.options_eq
  picker_eq p hp := by
    rw [ready_bringIn_eq c connect w members hready]
    exact h.picker_eq p hp
  built := h.built
  unbuilt hnone := by
    have hsome : c.balancer.picker.isSome = true := h.built hbuilt
    rw [show c.balancer.picker = none from hnone] at hsome
    cases hsome

theorem Coherent.sink (h : Coherent options c) (connect : Connector σ C) (w : σ)
    (members : List Instance) : Coherent options (sink connect (c, w) members).2.1 := by
  unfold Connections.sink update
  dsimp only
  split
  · next next hupdate =>
    split at hupdate
    · cases hupdate
    · split at hupdate
      · cases hupdate
        exact coherent_rebuild (fun _ => unready_held_bringIn) h.options_eq
      · next hsame =>
        cases hupdate
        simp only [Bool.or_eq_true, Bool.not_eq_true', bne_iff_ne, ne_eq, not_or,
          Bool.not_eq_false, Decidable.not_not] at hsame
        exact h.bringIn hsame.1 hsame.2
  · exact h

/-- Whatever happens, the connections stay coherent. -/
theorem Coherent.perform {s : Connections C × σ} (h : Coherent options s.1)
    (connect : Connector σ C) (action : Action) :
    Coherent options (perform connect s action).1 := by
  cases action with
  | update members => exact h.sink connect s.2 members
  | markReady a => exact h.markReady a
  | markUnready a => exact h.markUnready a
  | close => exact h.close
  | pick draw call => exact h

theorem coherent_after (connect : Connector σ C) (options : ShardOptions) (w : σ)
    (actions : List Action) : Coherent options (after connect options w actions) := by
  suffices key : ∀ s : Connections C × σ, Coherent options s.1 →
      Coherent options (actions.foldl (Connections.perform connect) s).1 from
    key (new options, w) coherent_new
  induction actions with
  | nil => exact fun s hs => hs
  | cons action rest ih => exact fun s hs => ih _ (hs.perform connect action)

/-! ## Calls -/

theorem Coherent.picker_eq_or (h : Coherent options c) :
    c.balancer.picker = some (pickerFor options c.ready) ∨
      c.balancer.picker = none ∧ c.ready = Table.empty := by
  cases hp : c.balancer.picker with
  | none =>
    refine Or.inr ⟨rfl, ?_⟩
    rw [ready, h.unbuilt hp]
    rfl
  | some p => exact Or.inl (congrArg some (h.picker_eq p hp))

/-- A call is answered as by a picker that is built for it. -/
theorem Coherent.pick_eq (h : Coherent options c) (draw : Nat) (call : Call) :
    c.pick draw call = (pickerFor options c.ready).pick draw call := by
  unfold Connections.pick Balancer.pick
  rcases h.picker_eq_or with hp | ⟨hp, hempty⟩
  · rw [hp]
  · rw [hp, hempty, pickerFor_empty]
    rfl

/-- Whatever happens to a channel, its marks belong to connections that it holds, and its picker is
the one that a new builder makes for the connections that it holds and that are not marked. So every
call is answered as by that picker: it gets one of these connections, and is never refused because
ring and table disagree. -/
theorem picker_current (connect : Connector σ C) (options : ShardOptions) (w : σ)
    (actions : List Action) :
    let c := after connect options w actions
    (∀ a ∈ c.unready, (c.held.get? a).isSome = true) ∧
    (∀ a v, c.ready.get? a = some v ↔ c.held.get? a = some v ∧ a ∉ c.unready) ∧
    (c.balancer.picker = some (PickerBuilder.build { options } c.ready).1 ∨
      c.balancer.picker = none ∧ c.ready = Table.empty) ∧
    (∀ draw call,
      c.pick draw call = (PickerBuilder.build { options } c.ready).1.pick draw call) ∧
    (∀ draw call v, c.pick draw call = .ok v → ∃ a, c.held.get? a = some v ∧ a ∉ c.unready) ∧
    ∀ draw call a, c.pick draw call ≠ .error (.ringInconsistent a) := by
  intro c
  have h : Coherent options c := coherent_after connect options w actions
  refine ⟨h.unready_held, fun a v => get?_ready c, h.picker_eq_or, h.pick_eq, ?_, ?_⟩
  · intro draw call v hv
    rw [h.pick_eq] at hv
    obtain ⟨a, ha⟩ := mem_of_pick_pickerFor options hv
    exact ⟨a, (get?_ready c).mp ha⟩
  · intro draw call a ha
    rw [h.pick_eq] at ha
    rcases pick_pickerFor_eq_error options ha with he | he
    · cases he
    · cases he

end Roster.Connections
