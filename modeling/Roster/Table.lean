/-!
# Tables

A finite map with texts for keys, kept in the order in which the keys were first written. Writing
an existing key replaces its value in place, so the last of several writes wins. The main
statements say what each operation does to `Table.get?`.
-/

namespace Roster

universe u v

/-- A finite map from texts, in the order of first writing. No key occurs twice. -/
structure Table (α : Type u) where
  entries : List (String × α)
  distinct : (entries.map Prod.fst).Nodup

namespace Table

variable {α : Type u} {β : Type v}

theorem ext {t₁ t₂ : Table α} (h : t₁.entries = t₂.entries) : t₁ = t₂ := by
  cases t₁; cases t₂; cases h; rfl

instance [DecidableEq α] : DecidableEq (Table α) := fun t₁ t₂ =>
  decidable_of_iff (t₁.entries = t₂.entries) ⟨ext, fun h => h ▸ rfl⟩

def empty : Table α := ⟨[], List.nodup_nil⟩

instance : Inhabited (Table α) := ⟨empty⟩

/-- The keys, in the order of first writing. -/
def keys (t : Table α) : List String := t.entries.map Prod.fst

/-- The value written last under a key. -/
def get? (t : Table α) (key : String) : Option α :=
  (t.entries.find? (·.1 == key)).map Prod.snd

/-- The entries with `value` under `key`: in place if the key is there, else at the end. -/
def writeEntry (key : String) (value : α) : List (String × α) → List (String × α)
  | [] => [(key, value)]
  | e :: rest => if e.1 = key then (key, value) :: rest else e :: writeEntry key value rest

theorem map_fst_writeEntry (key : String) (value : α) (es : List (String × α)) :
    (writeEntry key value es).map Prod.fst =
      if key ∈ es.map Prod.fst then es.map Prod.fst else es.map Prod.fst ++ [key] := by
  induction es with
  | nil => simp [writeEntry]
  | cons e rest ih =>
    by_cases h : e.1 = key
    · simp [writeEntry, h]
    · have h' : ¬ key = e.1 := fun he => h he.symm
      simp only [writeEntry, h, if_false, List.map_cons, ih, List.mem_cons, h', false_or]
      split <;> simp

theorem nodup_writeEntry {key : String} {value : α} {es : List (String × α)}
    (h : (es.map Prod.fst).Nodup) : ((writeEntry key value es).map Prod.fst).Nodup := by
  rw [map_fst_writeEntry]
  split
  · exact h
  · next hk =>
    refine List.nodup_append.mpr ⟨h, by simp, ?_⟩
    intro a ha b hb
    simp only [List.mem_singleton] at hb
    subst hb
    exact fun hab => hk (hab ▸ ha)

/-- The table with `value` under `key`. -/
def set (t : Table α) (key : String) (value : α) : Table α :=
  ⟨writeEntry key value t.entries, nodup_writeEntry t.distinct⟩

def erase (t : Table α) (key : String) : Table α where
  entries := t.entries.filter (·.1 != key)
  distinct := (List.filter_sublist.map Prod.fst).nodup t.distinct

def filter (p : String → Bool) (t : Table α) : Table α where
  entries := t.entries.filter fun e => p e.1
  distinct := (List.filter_sublist.map Prod.fst).nodup t.distinct

/-- The table in which pairs are written in turn, so that the last pair of a key wins. -/
def ofList (es : List (String × α)) : Table α :=
  es.foldl (fun t e => t.set e.1 e.2) empty

def map (f : α → β) (t : Table α) : Table β where
  entries := t.entries.map fun e => (e.1, f e.2)
  distinct := by
    have h : (t.entries.map fun e => (e.1, f e.2)).map Prod.fst = t.entries.map Prod.fst := by
      simp [List.map_map, Function.comp_def]
    rw [h]; exact t.distinct

def size (t : Table α) : Nat := t.entries.length

/-! ## What each operation does to the values -/

@[simp] theorem get?_empty (key : String) : (empty : Table α).get? key = none := rfl

theorem find?_writeEntry (key key' : String) (value : α) (es : List (String × α)) :
    ((writeEntry key value es).find? (·.1 == key')).map Prod.snd =
      if key = key' then some value else (es.find? (·.1 == key')).map Prod.snd := by
  induction es with
  | nil => by_cases h : key = key' <;> simp [writeEntry, h]
  | cons e rest ih =>
    by_cases h : e.1 = key
    · by_cases h' : key = key' <;> simp [writeEntry, h, h']
    · by_cases h' : e.1 = key'
      · subst h'
        have hk : ¬ key = e.1 := fun he => h he.symm
        simp [writeEntry, h, hk]
      · have : (e.1 == key') = false := by simpa using h'
        simp only [writeEntry, h, if_false, List.find?_cons, this, ih]

theorem get?_set (t : Table α) (key key' : String) (value : α) :
    (t.set key value).get? key' = if key = key' then some value else t.get? key' :=
  find?_writeEntry key key' value t.entries

@[simp] theorem get?_set_self (t : Table α) (key : String) (value : α) :
    (t.set key value).get? key = some value := by simp [get?_set]

theorem get?_erase (t : Table α) (key key' : String) :
    (t.erase key).get? key' = if key = key' then none else t.get? key' := by
  show ((t.entries.filter (·.1 != key)).find? (·.1 == key')).map Prod.snd = _
  unfold get?
  induction t.entries with
  | nil => simp
  | cons e rest ih =>
    by_cases h : e.1 = key
    · by_cases h' : key = key'
      · simp [h, h'] at ih ⊢
      · have : (e.1 == key') = false := by simp [h, h']
        simpa [List.filter_cons, h, h', List.find?_cons, this] using ih
    · by_cases h' : e.1 = key'
      · subst h'
        have hk : ¬ key = e.1 := fun hk => h hk.symm
        simp [h, hk]
      · have : (e.1 == key') = false := by simpa using h'
        simpa [List.filter_cons, h, List.find?_cons, this] using ih

@[simp] theorem get?_erase_self (t : Table α) (key : String) : (t.erase key).get? key = none := by
  simp [get?_erase]

theorem mem_keys_iff (t : Table α) (key : String) : key ∈ t.keys ↔ (t.get? key).isSome := by
  simp only [keys, get?, Option.isSome_map, List.find?_isSome, List.mem_map, beq_iff_eq]

theorem get?_eq_none_iff (t : Table α) (key : String) : t.get? key = none ↔ key ∉ t.keys := by
  rw [mem_keys_iff, Option.not_isSome_iff_eq_none]

theorem get?_eq_some_iff (t : Table α) (key : String) (value : α) :
    t.get? key = some value ↔ (key, value) ∈ t.entries := by
  obtain ⟨es, hdistinct⟩ := t
  show (es.find? (·.1 == key)).map Prod.snd = some value ↔ (key, value) ∈ es
  induction es with
  | nil => simp
  | cons e rest ih =>
    rw [List.map_cons, List.nodup_cons] at hdistinct
    by_cases h : e.1 = key
    · subst h
      have hrest : (e.1, value) ∉ rest := fun hm =>
        hdistinct.1 (List.mem_map.mpr ⟨(e.1, value), hm, rfl⟩)
      rw [List.find?_cons_of_pos (by simp), Option.map_some, Option.some.injEq, List.mem_cons]
      constructor
      · rintro rfl
        exact Or.inl rfl
      · rintro (he | hm)
        · rw [← he]
        · exact absurd hm hrest
    · have hne : (key, value) ≠ e := fun he => h (by rw [← he])
      rw [List.find?_cons_of_neg (by simpa using h), ih hdistinct.2, List.mem_cons]
      exact ⟨Or.inr, fun hm => hm.resolve_left hne⟩

theorem entries_set_of_get?_eq_none {t : Table α} {key : String} (value : α)
    (h : t.get? key = none) : (t.set key value).entries = t.entries ++ [(key, value)] := by
  have hkey : key ∉ t.entries.map Prod.fst := (get?_eq_none_iff t key).mp h
  show writeEntry key value t.entries = t.entries ++ [(key, value)]
  generalize t.entries = es at hkey
  induction es with
  | nil => rfl
  | cons e rest ih =>
    rw [List.map_cons, List.mem_cons, not_or] at hkey
    rw [writeEntry, if_neg (Ne.symm hkey.1), ih hkey.2, List.cons_append]

theorem set_eq_self {t : Table α} {key : String} {value : α} (h : t.get? key = some value) :
    t.set key value = t := by
  rw [get?_eq_some_iff] at h
  obtain ⟨es, hdistinct⟩ := t
  refine ext ?_
  show writeEntry key value es = es
  replace h : (key, value) ∈ es := h
  induction es with
  | nil => cases h
  | cons e rest ih =>
    rw [List.map_cons, List.nodup_cons] at hdistinct
    rcases List.mem_cons.mp h with rfl | hrest
    · exact if_pos rfl
    · have hne : e.1 ≠ key := fun he => hdistinct.1 (he ▸ List.mem_map_of_mem hrest)
      rw [writeEntry, if_neg hne, ih hdistinct.2 hrest]

theorem erase_eq_self {t : Table α} {key : String} (h : t.get? key = none) :
    t.erase key = t := by
  rw [get?_eq_none_iff] at h
  refine ext (List.filter_eq_self.mpr fun e he => ?_)
  rw [bne_iff_ne]
  exact fun hkey => h (hkey ▸ List.mem_map_of_mem he)

theorem get?_filter (t : Table α) (p : String → Bool) (key : String) :
    (t.filter p).get? key = if p key then t.get? key else none := by
  simp only [get?, filter, List.find?_filter]
  by_cases h : p key
  · simp only [h, if_true]
    congr 2
    funext e
    by_cases he : e.1 = key
    · simp [he, h]
    · simp [he]
  · rw [if_neg h, Option.map_eq_none_iff, List.find?_eq_none]
    intro e _ he
    simp only [decide_eq_true_eq, beq_iff_eq] at he
    exact h (he.2 ▸ he.1)

theorem entries_foldl_set {t : Table α} {es : List (String × α)}
    (h : ((t.entries ++ es).map Prod.fst).Nodup) :
    (es.foldl (fun t e => t.set e.1 e.2) t).entries = t.entries ++ es := by
  induction es generalizing t with
  | nil => exact (List.append_nil _).symm
  | cons e rest ih =>
    have hnew : t.get? e.1 = none := by
      rw [List.map_append, List.map_cons] at h
      rw [get?_eq_none_iff]
      exact fun hkey => (List.nodup_append.mp h).2.2 _ hkey _ List.mem_cons_self rfl
    have hset := entries_set_of_get?_eq_none e.2 hnew
    have hall : t.entries ++ e :: rest = (t.set e.1 e.2).entries ++ rest := by
      rw [hset, List.append_assoc]
      rfl
    rw [hall] at h ⊢
    exact ih h

/-- Writing pairs with distinct keys in turn keeps them as they are. -/
theorem ofList_entries (t : Table α) : ofList t.entries = t :=
  ext (entries_foldl_set (t := empty) t.distinct)

theorem ofList_concat (es : List (String × α)) (e : String × α) :
    ofList (es ++ [e]) = (ofList es).set e.1 e.2 := by
  rw [ofList, List.foldl_append]
  rfl

/-- The last pair of a key is the one that counts. -/
theorem get?_ofList (es : List (String × α)) (key : String) :
    (ofList es).get? key = es.reverse.lookup key := by
  generalize h : es.reverse = rs
  rw [List.reverse_eq_iff] at h
  subst h
  induction rs with
  | nil => rfl
  | cons e rest ih =>
    rw [List.reverse_cons, ofList_concat, get?_set, ih]
    obtain ⟨key', value⟩ := e
    by_cases h : key' = key
    · subst h
      simp
    · have h' : (key == key') = false := beq_eq_false_iff_ne.mpr (Ne.symm h)
      rw [if_neg h, List.lookup_cons, h']

end Table

/-! ## Sorted texts -/

theorem pairwise_mergeSort_le (texts : List String) :
    (texts.mergeSort (· ≤ ·)).Pairwise (· ≤ ·) := by
  have htrans (a b c : String) (hab : decide (a ≤ b) = true) (hbc : decide (b ≤ c) = true) :
      decide (a ≤ c) = true := by
    rw [decide_eq_true_eq] at hab hbc ⊢
    exact String.le_trans hab hbc
  have htotal (a b : String) : (decide (a ≤ b) || decide (b ≤ a)) = true := by
    rw [Bool.or_eq_true, decide_eq_true_eq, decide_eq_true_eq]
    exact String.le_total a b
  exact (List.pairwise_mergeSort htrans htotal texts).imp fun hle => of_decide_eq_true hle

theorem mergeSort_le_eq_of_perm {texts texts' : List String} (h : texts.Perm texts') :
    texts.mergeSort (· ≤ ·) = texts'.mergeSort (· ≤ ·) :=
  List.Perm.eq_of_pairwise (fun _ _ _ _ => String.le_antisymm) (pairwise_mergeSort_le texts)
    (pairwise_mergeSort_le texts')
    ((List.mergeSort_perm texts _).trans (h.trans (List.mergeSort_perm texts' _).symm))

end Roster
