import Roster.Proofs.Picker
import Roster.Proofs.Ring.Agreement

/-!
# How calls are answered

A call is routed by its `effectiveKey?`, which is its own shard key or the one that stands in for a
missing one. The picker that is built for ready connections answers a call with such a key by the
connection of the key's owner on the ring (`pick_build_of_effectiveKey?`), and every other call as
the policy for missing keys says (`pick_build_of_random`, `pick_build_eq_error_iff`). The owner
depends on the set of addresses alone, so pickers that were built apart for the same addresses send
calls of one key to one address (`pick_build_of_addresses`).
-/

namespace Roster

variable {C D : Type}

/-! ## The shard key of a call -/

namespace Header

/-- The value of a header is a text: its bytes are visible ones of ASCII, blanks or tabs, and they
are the characters of the text. -/
def Spells (h : Header) (text : String) : Prop :=
  (∀ b ∈ h.value, b = 0x09 ∨ 0x20 ≤ b ∧ b ≤ 0x7e) ∧
    text.toList.map Char.toNat = h.value.map UInt8.toNat

theorem toNat_ofNat_byte (b : UInt8) : (Char.ofNat b.toNat).toNat = b.toNat := by
  have hvalid : b.toNat.isValidChar := Or.inl (by have := b.toNat_lt; omega)
  rw [Char.ofNat, dif_pos hvalid]
  rfl

theorem text?_eq_some_iff {h : Header} {text : String} : h.text? = some text ↔ h.Spells text := by
  have hall : h.value.all isTextByte = true ↔ ∀ b ∈ h.value, b = 0x09 ∨ 0x20 ≤ b ∧ b ≤ 0x7e := by
    simp [isTextByte, or_comm]
  unfold text? Spells
  rw [← hall]
  constructor
  · intro htext
    split at htext
    · next hbytes =>
      refine ⟨hbytes, ?_⟩
      rw [← Option.some.inj htext, String.toList_ofList, List.map_map]
      exact List.map_congr_left fun b _ => toNat_ofNat_byte b
    · cases htext
  · rintro ⟨hbytes, hchars⟩
    have hlist : h.value.map (fun b => Char.ofNat b.toNat) = text.toList := by
      have hmapped := congrArg (List.map Char.ofNat) hchars
      rw [List.map_map, List.map_map] at hmapped
      refine hmapped.symm.trans ((List.map_congr_left fun c _ => ?_).trans (List.map_id _))
      exact Char.ofNat_toNat c
    rw [if_pos hbytes, hlist, String.ofList_toList]

end Header

namespace Call

theorem header?_eq_some_iff {call : Call} {name text : String} :
    call.header? name = some text ↔
      ∃ before header after, call.headers = before ++ header :: after ∧
        (∀ other ∈ before, other.name ≠ name) ∧ header.name = name ∧ header.Spells text := by
  simp only [header?, Option.bind_eq_some_iff, List.find?_eq_some_iff_append, beq_iff_eq,
    Bool.not_eq_true', beq_eq_false_iff_ne, Header.text?_eq_some_iff]
  constructor
  · rintro ⟨header, ⟨hname, before, after, hheaders, hbefore⟩, hspells⟩
    exact ⟨before, header, after, hheaders, hbefore, hname, hspells⟩
  · rintro ⟨before, header, after, hheaders, hbefore, hname, hspells⟩
    exact ⟨header, ⟨hname, before, after, hheaders, hbefore⟩, hspells⟩

theorem shardKey?_eq_some_iff {call : Call} {key : String} :
    call.shardKey? = some key ↔
      call.key = some key ∨
        call.key = none ∧ ∃ before header after, call.headers = before ++ header :: after ∧
          (∀ other ∈ before, other.name ≠ shardKeyHeader) ∧ header.name = shardKeyHeader ∧
            header.Spells key := by
  rw [shardKey?, Option.or_eq_some_iff, header?_eq_some_iff]

end Call

/-- The key by which a call is routed: its own, or the one that stands in for a missing one. -/
def ShardOptions.effectiveKey? (o : ShardOptions) (call : Call) : Option String :=
  (o.keyOf call).or
    (match o.missingKey with
    | .sentinel key => some key
    | .reject => none
    | .random => none)

/-- A call without an effective key has no key of its own, and no other stands in for it. -/
theorem ShardOptions.effectiveKey?_eq_none_iff {o : ShardOptions} {call : Call} :
    o.effectiveKey? call = none ↔
      o.keyOf call = none ∧ (o.missingKey = .reject ∨ o.missingKey = .random) := by
  rw [effectiveKey?, Option.or_eq_none_iff]
  cases o.missingKey <;> simp

/-! ## Shard pickers -/

namespace ShardPicker

variable {p : ShardPicker C} {call : Call} {key : String}

theorem candidates_of_effectiveKey? (h : p.options.effectiveKey? call = some key) :
    p.candidates call = (p.connectionFor key).map fun c => [c] := by
  unfold ShardOptions.effectiveKey? at h
  unfold candidates
  cases hkey : p.options.keyOf call with
  | some own =>
    rw [hkey, Option.some_or, Option.some.injEq] at h
    rw [h]
  | none =>
    rw [hkey, Option.none_or] at h
    cases hmissing : p.options.missingKey with
    | sentinel sentinel =>
      rw [hmissing] at h
      cases h
      rfl
    | reject =>
      rw [hmissing] at h
      cases h
    | random =>
      rw [hmissing] at h
      cases h

theorem pick_of_effectiveKey? (h : p.options.effectiveKey? call = some key) (draw : Nat) :
    (Picker.sharding p).pick draw call = p.connectionFor key := by
  have hcandidates : (Picker.sharding p).candidates call = (p.connectionFor key).map fun c => [c] :=
    candidates_of_effectiveKey? h
  cases hfor : p.connectionFor key with
  | error e =>
    rw [hfor] at hcandidates
    exact Picker.pick_of_refused draw hcandidates
  | ok c =>
    rw [hfor] at hcandidates
    rw [Picker.pick_of_candidates draw hcandidates, List.length_singleton, Nat.mod_one]
    rfl

theorem pick_of_reject (hkey : p.options.keyOf call = none)
    (hmissing : p.options.missingKey = .reject) (draw : Nat) :
    (Picker.sharding p).pick draw call = .error .missingShardKey := by
  refine Picker.pick_of_refused draw ?_
  show p.candidates call = _
  rw [candidates, hkey, hmissing]

theorem pick_of_random (hkey : p.options.keyOf call = none)
    (hmissing : p.options.missingKey = .random) (hsome : p.connections.entries ≠ [])
    (draw : Nat) :
    ∃ a c, p.connections.get? a = some c ∧ (Picker.sharding p).pick draw call = .ok c := by
  have hcandidates : (Picker.sharding p).candidates call =
      .ok (p.connections.entries.map (·.2)) := by
    show p.candidates call = _
    rw [candidates, hkey, hmissing]
    dsimp only
    split
    · next hnil => exact absurd hnil hsome
    · rfl
  have hdrawn : draw % p.connections.entries.length < p.connections.entries.length :=
    Nat.mod_lt _ (List.length_pos_iff.mpr hsome)
  have hmem := List.getElem_mem hdrawn
  refine ⟨_, _, (Table.get?_eq_some_iff _ _ _).mpr hmem, ?_⟩
  rw [Picker.pick_of_candidates draw hcandidates, List.length_map, List.getElem?_map,
    List.getElem?_eq_getElem hdrawn]
  rfl

end ShardPicker

/-! ## Pickers that are built -/

namespace PickerBuilder

variable (b : PickerBuilder) (ready : Table C)

/-- The ring on which a builder puts the addresses of ready connections. -/
def ringFor : Ring := Ring.build .standard ready.keys b.options.replicas

theorem build_of_ne_empty (hready : ready ≠ Table.empty) :
    (b.build ready).1 = .sharding ⟨b.ringFor ready, ready, b.options⟩ := by
  refine if_neg fun hsize => hready (Table.ext ?_)
  exact List.eq_nil_of_length_eq_zero hsize

theorem keys_ne_nil (hready : ready ≠ Table.empty) : ready.keys ≠ [] := fun hkeys =>
  hready (Table.ext (List.map_eq_nil_iff.mp hkeys))

/-- A call with an effective key gets the ready connection of the key's owner. It is refused only if
there is no owner, because nothing is ready or addresses have no points. -/
theorem pick_build_of_effectiveKey? {call : Call} {key : String}
    (hkey : b.options.effectiveKey? call = some key) (draw : Nat) :
    (∃ a c, (b.ringFor ready).owner? .standard key = some a ∧ ready.get? a = some c ∧
      (b.build ready).1.pick draw call = .ok c) ∨
    ((ready.keys = [] ∨ b.options.replicas = 0) ∧
      (b.build ready).1.pick draw call = .error .noConnectionAvailable) := by
  by_cases hready : ready = Table.empty
  · subst hready
    exact Or.inr ⟨Or.inl rfl, rfl⟩
  · rw [build_of_ne_empty b ready hready, ShardPicker.pick_of_effectiveKey? hkey]
    unfold ShardPicker.connectionFor ShardPicker.route?
    cases howner : (b.ringFor ready).owner? .standard key with
    | none => exact Or.inr ⟨(Ring.owner?_build_eq_none_iff _ _).mp howner, rfl⟩
    | some a =>
      obtain ⟨c, hc⟩ := Option.isSome_iff_exists.mp
        ((Table.mem_keys_iff _ _).mp (Ring.mem_of_owner?_build _ _ howner))
      refine Or.inl ⟨a, c, rfl, hc, ?_⟩
      dsimp only
      rw [hc]

variable {b ready} {call : Call} {key : String}

/-- If addresses have points, a call with an effective key is never refused for want of an owner. -/
theorem pick_build_of_owner (hreplicas : 0 < b.options.replicas) (hready : ready ≠ Table.empty)
    (hkey : b.options.effectiveKey? call = some key) (draw : Nat) :
    ∃ a c, (b.ringFor ready).owner? .standard key = some a ∧ ready.get? a = some c ∧
      (b.build ready).1.pick draw call = .ok c := by
  refine (pick_build_of_effectiveKey? b ready hkey draw).resolve_right ?_
  rintro ⟨hkeys | hzero, _⟩
  · exact keys_ne_nil ready hready hkeys
  · exact Nat.ne_of_gt hreplicas hzero

theorem pick_build_eq_of_effectiveKey? {call' : Call}
    (hkey : b.options.effectiveKey? call = some key)
    (hkey' : b.options.effectiveKey? call' = some key) (draw draw' : Nat) :
    (b.build ready).1.pick draw call = (b.build ready).1.pick draw' call' := by
  by_cases hready : ready = Table.empty
  · subst hready
    rfl
  · rw [build_of_ne_empty b ready hready, ShardPicker.pick_of_effectiveKey? hkey,
      ShardPicker.pick_of_effectiveKey? hkey']

theorem pick_build_of_random (hready : ready ≠ Table.empty) (hown : b.options.keyOf call = none)
    (hrandom : b.options.missingKey = .random) (draw : Nat) :
    ∃ a c, ready.get? a = some c ∧ (b.build ready).1.pick draw call = .ok c := by
  rw [build_of_ne_empty b ready hready]
  exact ShardPicker.pick_of_random (p := ⟨b.ringFor ready, ready, b.options⟩) hown hrandom
    (fun hnil => hready (Table.ext hnil)) draw

/-- With ready connections, and points for their addresses, only the calls are refused that the
policy for missing keys wants refused. -/
theorem pick_build_eq_error_iff (hreplicas : 0 < b.options.replicas) (hready : ready ≠ Table.empty)
    {draw : Nat} {e : RoutingError} :
    (b.build ready).1.pick draw call = .error e ↔
      e = .missingShardKey ∧ b.options.keyOf call = none ∧ b.options.missingKey = .reject := by
  constructor
  · intro hpick
    cases hkey : b.options.effectiveKey? call with
    | some key =>
      obtain ⟨a, c, _, _, hok⟩ := pick_build_of_owner hreplicas hready hkey draw
      rw [hok] at hpick
      cases hpick
    | none =>
      obtain ⟨hown, hreject | hrandom⟩ := ShardOptions.effectiveKey?_eq_none_iff.mp hkey
      · rw [build_of_ne_empty b ready hready, ShardPicker.pick_of_reject hown hreject] at hpick
        cases hpick
        exact ⟨rfl, hown, hreject⟩
      · obtain ⟨a, c, _, hok⟩ := pick_build_of_random hready hown hrandom draw
        rw [hok] at hpick
        cases hpick
  · rintro ⟨rfl, hown, hreject⟩
    rw [build_of_ne_empty b ready hready]
    exact ShardPicker.pick_of_reject hown hreject draw

/-! ## Every call is answered -/

theorem replicas_pos
    (h : (∃ n, b.options.replicas = (b.options.withReplicas n).replicas) ∨
      ∃ c : BalancerConfig, b.options.replicas = c.shardOptions.replicas) :
    0 < b.options.replicas := by
  rcases h with ⟨n, hn⟩ | ⟨c, hc⟩
  · rw [hn]
    exact Nat.le_max_right n 1
  · rw [hc]
    exact Nat.le_max_right c.replicas 1

/-- Whatever a builder built before, and whichever number of points it was told to give each
address: without ready connections its picker refuses every call for want of one. With some it
refuses exactly the calls without a key that the policy wants refused, sends those that may go
anywhere to a ready connection, and sends every other call to the connection of the owner of the
call's effective key. So calls of the same effective key get the same connection. If keys are read
in the usual way, a call's key is the attached one, or else the text of the first header for it. -/
theorem pick_total (b : PickerBuilder)
    (hreplicas : (∃ n, b.options.replicas = (b.options.withReplicas n).replicas) ∨
      ∃ c : BalancerConfig, b.options.replicas = c.shardOptions.replicas) (ready : Table C) :
    (ready = Table.empty → ∀ call draw,
      (b.build ready).1.pick draw call = .error .noConnectionAvailable) ∧
    (ready ≠ Table.empty → ∀ call draw,
      ((b.build ready).1.pick draw call = .error .missingShardKey ↔
        b.options.keyOf call = none ∧ b.options.missingKey = .reject) ∧
      (b.options.keyOf call = none → b.options.missingKey = .random →
        ∃ a c, ready.get? a = some c ∧ (b.build ready).1.pick draw call = .ok c) ∧
      (∀ key, b.options.effectiveKey? call = some key →
        ∃ a c, (b.ringFor ready).owner? .standard key = some a ∧ ready.get? a = some c ∧
          (b.build ready).1.pick draw call = .ok c) ∧
      (b.build ready).1.pick draw call ≠ .error .noConnectionAvailable ∧
      ∀ a, (b.build ready).1.pick draw call ≠ .error (.ringInconsistent a)) ∧
    (∀ call call' key draw draw', b.options.effectiveKey? call = some key →
      b.options.effectiveKey? call' = some key →
      (b.build ready).1.pick draw call = (b.build ready).1.pick draw' call') ∧
    (b.options.keyOf = Call.shardKey? → ∀ call key, b.options.keyOf call = some key ↔
      call.key = some key ∨
        call.key = none ∧ ∃ before header after, call.headers = before ++ header :: after ∧
          (∀ other ∈ before, other.name ≠ shardKeyHeader) ∧ header.name = shardKeyHeader ∧
            header.Spells key) := by
  have hpos : 0 < b.options.replicas := replicas_pos hreplicas
  refine ⟨?_, fun hready call draw => ⟨?_, ?_, ?_, ?_, ?_⟩, ?_, ?_⟩
  · rintro rfl call draw
    rfl
  · rw [pick_build_eq_error_iff hpos hready]
    exact and_iff_right rfl
  · exact fun hown hrandom => pick_build_of_random hready hown hrandom draw
  · exact fun key hkey => pick_build_of_owner hpos hready hkey draw
  · intro herror
    cases ((pick_build_eq_error_iff hpos hready).mp herror).1
  · intro a herror
    cases ((pick_build_eq_error_iff hpos hready).mp herror).1
  · exact fun call call' key draw draw' hkey hkey' =>
      pick_build_eq_of_effectiveKey? hkey hkey' draw draw'
  · intro hdefault call key
    rw [hdefault, Call.shardKey?_eq_some_iff]

/-- A builder told to give no points, with a call whose header for keys is repeated and one that
has no key. -/
theorem pick_total_repeated_header :
    let options := ({ missingKey := .reject } : ShardOptions).withReplicas 0
    let ready : Table Nat := Table.ofList [("a:1", 10), ("b:1", 20)]
    let keyed : Call :=
      { method := "/orders.Orders/Get"
        headers := [⟨shardKeyHeader, [0x6b]⟩, ⟨shardKeyHeader, [0xff]⟩] }
    let bare : Call := { method := "/orders.Orders/Get" }
    (∃ n, options.replicas = (options.withReplicas n).replicas) ∧ ready ≠ Table.empty ∧
      (∃ a c, ready.get? a = some c ∧
        (PickerBuilder.build { options } ready).1.pick 0 keyed = .ok c) ∧
      (PickerBuilder.build { options } ready).1.pick 0 bare = .error .missingShardKey := by
  intro options ready keyed bare
  have hreplicas : ∃ n, options.replicas = (options.withReplicas n).replicas := ⟨0, rfl⟩
  have hready : ready ≠ Table.empty := by decide
  have htotal := (pick_total { options } (Or.inl hreplicas) ready).2.1 hready
  have hkey : options.effectiveKey? keyed = some "k" := by decide
  obtain ⟨a, c, _, hc, hpick⟩ := (htotal keyed 0).2.2.1 "k" hkey
  exact ⟨hreplicas, hready, ⟨a, c, hc, hpick⟩, (htotal bare 0).1.mpr ⟨by decide, rfl⟩⟩

/-! ## Clients that agree -/

/-- A call with an effective key is answered by the owner on any ring of the ready addresses, if
points of different addresses stand apart. -/
theorem pick_build_of_addresses {addresses : List String}
    (hready : ∀ a, a ∈ ready.keys ↔ a ∈ addresses)
    (hseparate : RingHash.standard.Separates b.options.replicas addresses)
    (hkey : b.options.effectiveKey? call = some key) (draw : Nat) :
    match (Ring.build .standard addresses b.options.replicas).owner? .standard key with
    | some a => ∃ c, ready.get? a = some c ∧ (b.build ready).1.pick draw call = .ok c
    | none => (b.build ready).1.pick draw call = .error .noConnectionAvailable := by
  rw [Ring.owner?_build_eq (fun a => (hready a).symm) hseparate key]
  change match (b.ringFor ready).owner? .standard key with
    | some a => _
    | none => _
  rcases pick_build_of_effectiveKey? b ready hkey draw with
    ⟨a, c, howner, hc, hpick⟩ | ⟨hnone, hpick⟩
  · rw [howner]
    exact ⟨c, hc, hpick⟩
  · rw [ringFor, (Ring.owner?_build_eq_none_iff _ _).mpr hnone]
    exact hpick

/-- Whoever builds rings of the same addresses, in any order and with any of them repeated, finds
the same owner for every key, if points of different addresses stand apart. So two builders,
whatever each of them built before, make pickers that send calls of the same key to the same
address whenever the same addresses are ready, in whatever order. -/
theorem clients_agree {replicas : Nat} {as bs : List String} (hsame : ∀ a, a ∈ as ↔ a ∈ bs)
    (hseparate : RingHash.standard.Separates replicas as) :
    (∀ key, (Ring.build .standard as replicas).owner? .standard key =
      (Ring.build .standard bs replicas).owner? .standard key) ∧
    ∀ (b₁ b₂ : PickerBuilder) (ready₁ : Table C) (ready₂ : Table D),
      b₁.options.replicas = replicas → b₂.options.replicas = replicas →
      (∀ a, a ∈ ready₁.keys ↔ a ∈ as) → (∀ a, a ∈ ready₂.keys ↔ a ∈ bs) →
      ∀ (call₁ call₂ : Call) (key : String), b₁.options.effectiveKey? call₁ = some key →
      b₂.options.effectiveKey? call₂ = some key → ∀ draw₁ draw₂,
        (∃ a c₁ c₂, (Ring.build .standard as replicas).owner? .standard key = some a ∧
          ready₁.get? a = some c₁ ∧ (b₁.build ready₁).1.pick draw₁ call₁ = .ok c₁ ∧
          ready₂.get? a = some c₂ ∧ (b₂.build ready₂).1.pick draw₂ call₂ = .ok c₂) ∨
        ((as = [] ∨ replicas = 0) ∧
          (b₁.build ready₁).1.pick draw₁ call₁ = .error .noConnectionAvailable ∧
          (b₂.build ready₂).1.pick draw₂ call₂ = .error .noConnectionAvailable) := by
  refine ⟨Ring.owner?_build_eq hsame hseparate, ?_⟩
  rintro b₁ b₂ ready₁ ready₂ rfl hreplicas hready₁ hready₂ call₁ call₂ key hkey₁ hkey₂ draw₁ draw₂
  have hpick₁ := pick_build_of_addresses hready₁ hseparate hkey₁ draw₁
  have hpick₂ := pick_build_of_addresses (fun a => (hready₂ a).trans (hsame a).symm)
    (hreplicas ▸ hseparate) hkey₂ draw₂
  rw [hreplicas] at hpick₂
  cases howner : (Ring.build .standard as b₁.options.replicas).owner? .standard key with
  | some a =>
    rw [howner] at hpick₁ hpick₂
    obtain ⟨c₁, hc₁, hok₁⟩ := hpick₁
    obtain ⟨c₂, hc₂, hok₂⟩ := hpick₂
    exact Or.inl ⟨a, c₁, c₂, rfl, hc₁, hok₁, hc₂, hok₂⟩
  | none =>
    rw [howner] at hpick₁ hpick₂
    exact Or.inr ⟨(Ring.owner?_build_eq_none_iff _ _).mp howner, hpick₁, hpick₂⟩

/-- Two clients that learned of two addresses in different order, one of which built a picker for
others before. -/
theorem clients_agree_reordered :
    let b₁ : PickerBuilder := { options := { replicas := 2 } }
    let b₂ : PickerBuilder := { options := { replicas := 2 }, tracked := ["c:1"] }
    let ready₁ : Table Nat := Table.ofList [("a:1", 10), ("b:1", 20)]
    let ready₂ : Table String := Table.ofList [("b:1", "second"), ("a:1", "first")]
    let call : Call := { method := "/orders.Orders/Get", key := some "k" }
    (∀ a, a ∈ ["a:1", "b:1", "a:1"] ↔ a ∈ ["b:1", "a:1"]) ∧
    RingHash.standard.Separates 2 ["a:1", "b:1", "a:1"] ∧
    (∃ a c₁ c₂, ready₁.get? a = some c₁ ∧ (b₁.build ready₁).1.pick 0 call = .ok c₁ ∧
      ready₂.get? a = some c₂ ∧ (b₂.build ready₂).1.pick 0 call = .ok c₂) := by
  intro b₁ b₂ ready₁ ready₂ call
  have hsame : ∀ a, a ∈ ["a:1", "b:1", "a:1"] ↔ a ∈ ["b:1", "a:1"] := by
    intro a
    simp only [List.mem_cons, List.not_mem_nil, or_false]
    grind
  have hseparate : RingHash.standard.Separates 2 ["a:1", "b:1", "a:1"] := by decide +kernel
  have hready₁ : ∀ a, a ∈ ready₁.keys ↔ a ∈ ["a:1", "b:1", "a:1"] := by
    intro a
    rw [show ready₁.keys = ["a:1", "b:1"] by decide]
    simp only [List.mem_cons, List.not_mem_nil, or_false]
    grind
  have hready₂ : ∀ a, a ∈ ready₂.keys ↔ a ∈ ["b:1", "a:1"] := by
    intro a
    rw [show ready₂.keys = ["b:1", "a:1"] by decide]
  refine ⟨hsame, hseparate, ?_⟩
  rcases (clients_agree hsame hseparate).2 b₁ b₂ ready₁ ready₂ rfl rfl hready₁ hready₂ call call "k"
    rfl rfl 0 0 with ⟨a, c₁, c₂, _, hagree⟩ | ⟨hnil | hzero, _⟩
  · exact ⟨a, c₁, c₂, hagree⟩
  · cases hnil
  · cases hzero

end PickerBuilder

end Roster
