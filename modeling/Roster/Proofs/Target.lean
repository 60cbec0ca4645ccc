import Mathlib.Data.List.DropRight
import Roster.Target

/-!
# Which texts name targets

A text is parted at its first `://` (`PartsAt`), and what follows is parted at its first slash. The
lemmas say so for each part of a text: `splitScheme?_eq_some_iff`, `splitAuthority_append` and
`splitAuthority_of_not_mem`, and, for the slashes around an endpoint, `trimSlashes_eq_self_iff`.
Together they give what it takes to read a target (`parse_eq_ok_iff`). A target that was read is
written so that it is read again, because its parts have no more slashes to lose.
-/

namespace Roster.Target

/-! ## The scheme -/

def separator : List Char := [':', '/', '/']

/-- A text has its first `://` between two parts. -/
def PartsAt (cs before rest : List Char) : Prop :=
  cs = before ++ separator ++ rest ∧ ∀ p q, cs = p ++ separator ++ q → before.length ≤ p.length

variable {cs before rest p q : List Char}

theorem PartsAt.unique (h : PartsAt cs before rest) (h' : PartsAt cs p q) :
    before = p ∧ rest = q := by
  have hlength : before.length = p.length := Nat.le_antisymm (h.2 p q h'.1) (h'.2 _ _ h.1)
  have heq := h.1.symm.trans h'.1
  rw [List.append_assoc, List.append_assoc] at heq
  obtain ⟨hbefore, hrest⟩ := List.append_inj heq hlength
  exact ⟨hbefore, List.append_cancel_left hrest⟩

theorem partsAt_of_splitScheme? (h : splitScheme? cs = some (before, rest)) :
    PartsAt cs before rest := by
  induction cs using splitScheme?.induct generalizing before with
  | case1 => cases h
  | case2 rest' =>
    cases h
    exact ⟨rfl, fun p q _ => Nat.zero_le _⟩
  | case3 c rest' hfirst ih =>
    rw [splitScheme?] at h
    · obtain ⟨⟨before', rest''⟩, hsplit, heq⟩ := Option.map_eq_some_iff.mp h
      cases heq
      obtain ⟨rfl, hleast⟩ := ih hsplit
      refine ⟨rfl, fun p q hpq => ?_⟩
      cases p with
      | nil =>
        -- The text would start with the separator, and be split there.
        obtain ⟨hc, htail⟩ := List.cons.inj hpq
        exact (hfirst _ hc htail).elim
      | cons d p =>
        obtain ⟨_, htail⟩ := List.cons.inj hpq
        exact Nat.succ_le_succ (hleast p q htail)
    · exact hfirst

theorem isSome_splitScheme? (h : cs = p ++ separator ++ q) : (splitScheme? cs).isSome = true := by
  induction cs using splitScheme?.induct generalizing p with
  | case1 => cases p <;> cases h
  | case2 rest' => rfl
  | case3 c rest' hfirst ih =>
    rw [splitScheme?, Option.isSome_map]
    · cases p with
      | nil =>
        obtain ⟨hc, htail⟩ := List.cons.inj h
        exact (hfirst _ hc htail).elim
      | cons d p => exact ih (List.cons.inj h).2
    · exact hfirst

theorem splitScheme?_eq_some_iff :
    splitScheme? cs = some (before, rest) ↔ PartsAt cs before rest := by
  refine ⟨partsAt_of_splitScheme?, fun h => ?_⟩
  obtain ⟨⟨p, q⟩, hsplit⟩ := Option.isSome_iff_exists.mp (isSome_splitScheme? h.1)
  obtain ⟨rfl, rfl⟩ := h.unique (partsAt_of_splitScheme? hsplit)
  exact hsplit

/-- What follows the first `://` of a text has no say in where it is. -/
theorem partsAt_append_iff (rest : List Char) :
    PartsAt (before ++ separator ++ rest) before rest ↔
      PartsAt (before ++ separator) before [] := by
  constructor
  · rintro ⟨_, hleast⟩
    refine ⟨(List.append_nil _).symm, fun p q hpq => hleast p (q ++ rest) ?_⟩
    rw [hpq, List.append_assoc]
  · rintro ⟨_, hleast⟩
    refine ⟨rfl, fun p q hpq => Nat.le_of_not_lt fun hlt => ?_⟩
    -- An earlier `://` ends before the one that follows `before` does.
    have hlength : (p ++ separator).length ≤ (before ++ separator).length := by
      rw [List.length_append, List.length_append]
      omega
    have hpre : p ++ separator <+: before ++ separator :=
      List.prefix_of_prefix_length_le ⟨q, hpq.symm⟩ ⟨rest, rfl⟩ hlength
    obtain ⟨q', hq'⟩ := hpre
    have hle := hleast p q' hq'.symm
    omega

/-! ## The authority -/

theorem splitAuthority_append {authority : List Char} (h : '/' ∉ authority) (path : List Char) :
    splitAuthority (authority ++ '/' :: path) = (authority, path) := by
  have hall : ∀ c ∈ authority, (c != '/') = true := by
    intro c hc
    rw [bne_iff_ne]
    rintro rfl
    exact h hc
  unfold splitAuthority
  rw [List.dropWhile_append_of_pos hall, List.takeWhile_append_of_pos hall]
  simp

theorem splitAuthority_of_not_mem (h : '/' ∉ cs) : splitAuthority cs = ([], cs) := by
  have hall : ∀ c ∈ cs, (c != '/') = true := by
    intro c hc
    rw [bne_iff_ne]
    rintro rfl
    exact h hc
  unfold splitAuthority
  rw [List.dropWhile_eq_nil_iff.mpr hall]

theorem slash_not_mem_authority (cs : List Char) : '/' ∉ (splitAuthority cs).1 := by
  by_cases h : '/' ∈ cs
  · obtain ⟨authority, path, rfl, hout⟩ := List.eq_append_cons_of_mem h
    rw [splitAuthority_append hout]
    exact hout
  · rw [splitAuthority_of_not_mem h]
    exact List.not_mem_nil

/-! ## The endpoint -/

def IsBare (cs : List Char) : Prop := cs.head? ≠ some '/' ∧ cs.getLast? ≠ some '/'

theorem trimSlashes_eq_rdropWhile (cs : List Char) :
    trimSlashes cs = (cs.dropWhile (· == '/')).rdropWhile (· == '/') := rfl

theorem isBare_trimSlashes (cs : List Char) : IsBare (trimSlashes cs) := by
  rw [trimSlashes_eq_rdropWhile]
  constructor
  · intro hhead
    obtain ⟨tail, htail⟩ := List.head?_eq_some_iff.mp hhead
    obtain ⟨slashes, hslashes⟩ := List.rdropWhile_prefix (· == '/') (cs.dropWhile (· == '/'))
    have hnot := List.head?_dropWhile_not (· == '/') cs
    rw [← hslashes, htail] at hnot
    exact absurd hnot (by simp)
  · intro hlast
    obtain ⟨init, hinit⟩ := List.getLast?_eq_some_iff.mp hlast
    have hne : (cs.dropWhile (· == '/')).rdropWhile (· == '/') ≠ [] := by
      rw [hinit]
      exact List.append_ne_nil_of_right_ne_nil _ (List.cons_ne_nil _ _)
    have hnot := List.rdropWhile_last_not (· == '/') _ hne
    rw [List.getLast?_eq_some_getLast hne, Option.some.injEq] at hlast
    rw [hlast] at hnot
    exact hnot (by simp)

theorem trimSlashes_eq_self_iff : trimSlashes cs = cs ↔ IsBare cs := by
  constructor
  · intro h
    rw [← h]
    exact isBare_trimSlashes cs
  · rintro ⟨hhead, hlast⟩
    have hleft : cs.dropWhile (· == '/') = cs := by
      rw [List.dropWhile_eq_self_iff]
      intro hpos hslash
      rw [List.head?_eq_getElem?, List.getElem?_eq_getElem hpos] at hhead
      exact hhead (congrArg some (beq_iff_eq.mp hslash))
    rw [trimSlashes_eq_rdropWhile, hleft, List.rdropWhile_eq_self_iff]
    intro hne hslash
    rw [List.getLast?_eq_some_getLast hne] at hlast
    exact hlast (congrArg some (beq_iff_eq.mp hslash))

theorem trimSlashes_eq_nil_iff : trimSlashes cs = [] ↔ ∀ c ∈ cs, c = '/' := by
  rw [trimSlashes_eq_rdropWhile, List.rdropWhile_eq_nil_iff]
  constructor
  · intro h c hc
    rw [← List.takeWhile_append_dropWhile (p := (· == '/')) (l := cs)] at hc
    rcases List.mem_append.mp hc with hc | hc
    · have hslash := List.mem_takeWhile_imp (p := (· == '/')) hc
      exact beq_iff_eq.mp hslash
    · exact beq_iff_eq.mp (h c hc)
  · intro h c hc
    exact beq_iff_eq.mpr (h c ((List.dropWhile_suffix _).subset hc))

/-! ## Targets -/

variable {text : String} {t : Target}

theorem toList_ne_nil_iff {s : String} : s.toList ≠ [] ↔ s ≠ "" := by
  rw [ne_eq, ne_eq, ← String.toList_inj]
  rfl

/-- What it takes to read a target: the text is parted at its first `://`, the rest at its first
slash, the slashes around the endpoint do not count, and scheme and endpoint are not empty. -/
theorem parse_eq_ok_iff :
    parse text = .ok t ↔ ∃ rest, PartsAt text.toList t.scheme.toList rest ∧
      t.authority.toList = (splitAuthority rest).1 ∧
      t.endpoint.toList = trimSlashes (splitAuthority rest).2 ∧
      t.scheme ≠ "" ∧ t.endpoint ≠ "" := by
  constructor
  · intro h
    unfold parse read at h
    split at h
    · cases h
    · next scheme rest hsplit =>
      dsimp only at h
      split at h
      · cases h
      · next hscheme =>
        split at h
        · cases h
        · next hendpoint =>
          cases h
          rw [List.isEmpty_iff] at hscheme hendpoint
          refine ⟨rest, ?_, String.toList_ofList, String.toList_ofList, ?_, ?_⟩
          · rw [String.toList_ofList]
            exact splitScheme?_eq_some_iff.mp hsplit
          · rwa [← toList_ne_nil_iff, String.toList_ofList]
          · rwa [← toList_ne_nil_iff, String.toList_ofList]
  · rintro ⟨rest, hparts, hauthority, hendpoint, hscheme, hne⟩
    rw [← toList_ne_nil_iff, ne_eq, ← List.isEmpty_iff] at hscheme hne
    unfold parse read
    rw [splitScheme?_eq_some_iff.mpr hparts]
    dsimp only
    rw [← hauthority, ← hendpoint, if_neg hscheme, if_neg hne, String.ofList_toList,
      String.ofList_toList, String.ofList_toList]
    rfl

theorem trimSlashes_ne_nil_iff : trimSlashes cs ≠ [] ↔ ∃ c ∈ cs, c ≠ '/' := by
  rw [ne_eq, trimSlashes_eq_nil_iff]
  simp only [not_forall, exists_prop, ne_eq]

theorem parts_of_parse (h : parse text = .ok t) :
    t.scheme ≠ "" ∧ PartsAt (t.scheme ++ "://").toList t.scheme.toList [] ∧
      '/' ∉ t.authority.toList ∧ t.endpoint ≠ "" ∧ IsBare t.endpoint.toList := by
  obtain ⟨rest, hparts, hauthority, hendpoint, hscheme, hne⟩ := parse_eq_ok_iff.mp h
  refine ⟨hscheme, ?_, ?_, hne, ?_⟩
  · rw [String.toList_append]
    have hcs := hparts.1
    rw [hcs] at hparts
    exact (partsAt_append_iff rest).mp hparts
  · rw [hauthority]
    exact slash_not_mem_authority rest
  · rw [hendpoint]
    exact isBare_trimSlashes _

theorem toList_render (t : Target) :
    t.render.toList =
      t.scheme.toList ++ separator ++ (t.authority.toList ++ '/' :: t.endpoint.toList) := by
  simp [render, separator, String.toList_append]

/-- A target is read back if it has the form in which targets are written. -/
theorem parse_render (hscheme : t.scheme ≠ "")
    (hparts : PartsAt (t.scheme ++ "://").toList t.scheme.toList [])
    (hauthority : '/' ∉ t.authority.toList) (hne : t.endpoint ≠ "")
    (hbare : IsBare t.endpoint.toList) : parse t.render = .ok t := by
  rw [parse_eq_ok_iff, toList_render]
  refine ⟨t.authority.toList ++ '/' :: t.endpoint.toList, ?_, ?_, ?_, hscheme, hne⟩
  · rw [String.toList_append] at hparts
    exact (partsAt_append_iff _).mpr hparts
  · rw [splitAuthority_append hauthority]
  · rw [splitAuthority_append hauthority]
    exact (trimSlashes_eq_self_iff.mpr hbare).symm

/-- A text names a target exactly if something stands before its first `://` and something else than
slashes follows the first slash after it, or follows it at all if there is no slash. A target that
was read is read back from its written form. The targets that are read back from theirs are those
with a scheme that has no `://` in it, not even with the one that is written after it, an authority
without a slash, and an endpoint that is not empty and has no slash at either end. -/
theorem reading_exact :
    (∀ text, (∃ t, parse text = .ok t) ↔
      ∃ scheme rest, PartsAt text.toList scheme rest ∧ scheme ≠ [] ∧
        ((∃ authority path, rest = authority ++ '/' :: path ∧ '/' ∉ authority ∧
            ∃ c ∈ path, c ≠ '/') ∨
          '/' ∉ rest ∧ ∃ c ∈ rest, c ≠ '/')) ∧
    (∀ text t, parse text = .ok t → parse t.render = .ok t) ∧
    ∀ t : Target, parse t.render = .ok t ↔
      t.scheme ≠ "" ∧ PartsAt (t.scheme ++ "://").toList t.scheme.toList [] ∧
      '/' ∉ t.authority.toList ∧
      t.endpoint ≠ "" ∧ IsBare t.endpoint.toList := by
  refine ⟨fun text => ⟨?reads, ?named⟩, fun text t h => ?again, fun t => ⟨parts_of_parse, ?back⟩⟩
  case reads =>
    rintro ⟨t, h⟩
    obtain ⟨rest, hparts, _, hendpoint, hscheme, hne⟩ := parse_eq_ok_iff.mp h
    rw [← toList_ne_nil_iff] at hscheme hne
    rw [hendpoint, trimSlashes_ne_nil_iff] at hne
    refine ⟨_, rest, hparts, hscheme, ?_⟩
    by_cases hslash : '/' ∈ rest
    · obtain ⟨authority, path, rfl, hout⟩ := List.eq_append_cons_of_mem hslash
      rw [splitAuthority_append hout] at hne
      exact Or.inl ⟨authority, path, rfl, hout, hne⟩
    · rw [splitAuthority_of_not_mem hslash] at hne
      exact Or.inr ⟨hslash, hne⟩
  case named =>
    rintro ⟨scheme, rest, hparts, hscheme, hrest⟩
    have hne : trimSlashes (splitAuthority rest).2 ≠ [] := by
      rw [trimSlashes_ne_nil_iff]
      rcases hrest with ⟨authority, path, rfl, hout, hpath⟩ | ⟨hslash, hrest⟩
      · rwa [splitAuthority_append hout]
      · rwa [splitAuthority_of_not_mem hslash]
    refine ⟨⟨String.ofList scheme, String.ofList (splitAuthority rest).1,
      String.ofList (trimSlashes (splitAuthority rest).2)⟩, parse_eq_ok_iff.mpr ⟨rest, ?_⟩⟩
    simp only [← toList_ne_nil_iff, String.toList_ofList]
    exact ⟨hparts, trivial, trivial, hscheme, hne⟩
  case again =>
    obtain ⟨hscheme, hparts, hauthority, hne, hbare⟩ := parts_of_parse h
    exact parse_render hscheme hparts hauthority hne hbare
  case back =>
    rintro ⟨hscheme, hparts, hauthority, hne, hbare⟩
    exact parse_render hscheme hparts hauthority hne hbare

/-- A scheme may end in a colon and a slash, and slashes inside an endpoint stay. -/
theorem reading_exact_slashes :
    let t : Target := ⟨"a:/", "b", "c//d"⟩
    parse "a:/://b//c//d/" = .ok t ∧ parse t.render = .ok t := by
  intro t
  have hread : parse "a:/://b//c//d/" = .ok t := by decide
  exact ⟨hread, reading_exact.2.1 _ t hread⟩

end Roster.Target
