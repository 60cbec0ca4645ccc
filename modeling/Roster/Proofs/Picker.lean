import Roster.Balancer
import Roster.Proofs.Ring

/-!
# Pickers of ready connections

A picker takes its ring and its table from the same ready connections. So an address that owns a
key has a connection: a call gets one of the ready connections (`mem_of_pick_pickerFor`), and it is
never refused because ring and table disagree (`pick_pickerFor_eq_error`).
-/

namespace Roster

variable {C : Type}

namespace Picker

theorem pick_of_refused {p : Picker C} {call : Call} {e : RoutingError} (draw : Nat)
    (h : p.candidates call = .error e) : p.pick draw call = .error e := by
  unfold pick
  rw [h]
  rfl

theorem pick_of_candidates {p : Picker C} {call : Call} {cs : List C} (draw : Nat)
    (h : p.candidates call = .ok cs) :
    p.pick draw call = match cs[draw % cs.length]? with
      | some c => .ok c
      | none => .error .noConnectionAvailable := by
  unfold pick
  rw [h]
  rfl

theorem pick_eq_ok {p : Picker C} {draw : Nat} {call : Call} {c : C}
    (h : p.pick draw call = .ok c) : ∃ cs, p.candidates call = .ok cs ∧ c ∈ cs := by
  cases hcs : p.candidates call with
  | error e =>
    rw [pick_of_refused draw hcs] at h
    cases h
  | ok cs =>
    rw [pick_of_candidates draw hcs] at h
    refine ⟨cs, rfl, ?_⟩
    split at h
    · next hget =>
      cases h
      exact List.mem_of_getElem? hget
    · cases h

theorem pick_eq_error {p : Picker C} {draw : Nat} {call : Call} {e : RoutingError}
    (h : p.pick draw call = .error e) :
    p.candidates call = .error e ∨ e = .noConnectionAvailable := by
  cases hcs : p.candidates call with
  | error e' =>
    rw [pick_of_refused draw hcs] at h
    cases h
    exact Or.inl rfl
  | ok cs =>
    rw [pick_of_candidates draw hcs] at h
    split at h
    · cases h
    · cases h
      exact Or.inr rfl

end Picker

namespace ShardPicker

/-- A picker whose ring and table agree: every address on the ring has a connection. -/
def Agrees (p : ShardPicker C) : Prop :=
  ∀ key a, p.route? key = some a → (p.connections.get? a).isSome

theorem connectionFor_eq_ok {p : ShardPicker C} {key : String} {c : C}
    (h : p.connectionFor key = .ok c) :
    ∃ a, p.route? key = some a ∧ p.connections.get? a = some c := by
  unfold connectionFor at h
  split at h
  · cases h
  · next a ha =>
    split at h
    · next c' hc =>
      cases h
      exact ⟨a, ha, hc⟩
    · cases h

theorem Agrees.connectionFor_eq_error {p : ShardPicker C} (hp : p.Agrees) {key : String}
    {e : RoutingError} (h : p.connectionFor key = .error e) : e = .noConnectionAvailable := by
  unfold connectionFor at h
  split at h
  · cases h
    rfl
  · next a ha =>
    have hsome := hp key a ha
    split at h
    · cases h
    · next hnone =>
      rw [hnone] at hsome
      cases hsome

theorem mem_connections_of_candidates {p : ShardPicker C} {call : Call} {cs : List C}
    (h : p.candidates call = .ok cs) {c : C} (hc : c ∈ cs) :
    ∃ a, p.connections.get? a = some c := by
  have hkeyed : ∀ key, (p.connectionFor key).map (fun c => [c]) = .ok cs →
      ∃ a, p.connections.get? a = some c := by
    intro key hkey
    cases hfor : p.connectionFor key with
    | error e =>
      rw [hfor] at hkey
      cases hkey
    | ok c' =>
      rw [hfor] at hkey
      cases hkey
      obtain ⟨a, _, ha⟩ := connectionFor_eq_ok hfor
      rw [List.mem_singleton] at hc
      exact ⟨a, hc ▸ ha⟩
  unfold candidates at h
  split at h
  · exact hkeyed _ h
  · split at h
    · exact hkeyed _ h
    · cases h
    · split at h
      · cases h
      · cases h
        obtain ⟨e, he, rfl⟩ := List.mem_map.mp hc
        exact ⟨e.1, (Table.get?_eq_some_iff _ _ _).mpr he⟩

/-- A picker whose ring and table agree refuses a call only for want of a connection or a key. -/
theorem Agrees.candidates_eq_error {p : ShardPicker C} (hp : p.Agrees) {call : Call}
    {e : RoutingError} (h : p.candidates call = .error e) :
    e = .noConnectionAvailable ∨ e = .missingShardKey := by
  have hkeyed : ∀ key, (p.connectionFor key).map (fun c => [c]) = .error e →
      e = .noConnectionAvailable := by
    intro key hkey
    cases hfor : p.connectionFor key with
    | error e' =>
      rw [hfor] at hkey
      cases hkey
      exact hp.connectionFor_eq_error hfor
    | ok c =>
      rw [hfor] at hkey
      cases hkey
  unfold candidates at h
  split at h
  · exact Or.inl (hkeyed _ h)
  · split at h
    · exact Or.inl (hkeyed _ h)
    · cases h
      exact Or.inr rfl
    · split at h
      · cases h
        exact Or.inl rfl
      · cases h

end ShardPicker

namespace PickerBuilder

variable (options : ShardOptions)

theorem pickerFor_empty : pickerFor options (Table.empty : Table C) =
    .failing .noConnectionAvailable := rfl

theorem agrees_of_build (ready : Table C) :
    ShardPicker.Agrees ⟨Ring.build .standard ready.keys options.replicas, ready, options⟩ := by
  intro key a ha
  exact (Table.mem_keys_iff _ _).mp (Ring.mem_of_owner?_build _ _ ha)

/-- A call gets one of the ready connections. -/
theorem mem_of_pick_pickerFor {ready : Table C} {draw : Nat} {call : Call} {c : C}
    (h : (pickerFor options ready).pick draw call = .ok c) : ∃ a, ready.get? a = some c := by
  obtain ⟨cs, hcs, hc⟩ := Picker.pick_eq_ok h
  unfold pickerFor at hcs
  split at hcs
  · cases hcs
  · exact ShardPicker.mem_connections_of_candidates hcs hc

/-- A picker for ready connections refuses calls only for want of a connection or a key. -/
theorem pick_pickerFor_eq_error {ready : Table C} {draw : Nat} {call : Call} {e : RoutingError}
    (h : (pickerFor options ready).pick draw call = .error e) :
    e = .noConnectionAvailable ∨ e = .missingShardKey := by
  rcases Picker.pick_eq_error h with hcs | rfl
  · unfold pickerFor at hcs
    split at hcs
    · cases hcs
      exact Or.inl rfl
    · exact (agrees_of_build options ready).candidates_eq_error hcs
  · exact Or.inl rfl

end PickerBuilder

end Roster
