import Mathlib.Data.Bool.AllAny
import Mathlib.Data.List.Basic
import Mathlib.Data.List.TakeWhile
import Roster.Consul
import Roster.Proofs.Consul.Escapes

/-!
# What a request about a service asks for

The name of a service is put into an address as it is. The address then loses what does not count
and what follows a number sign, a query is taken off at a question mark, and dot segments are
resolved (`requestTarget_front`). All that can be left of the name is the last segment of the path
(`exists_of_requestTarget_eq`). No characters are won on the way, and an escape in the name stands
for fewer bytes than it has, so a request that asks for the service carries its whole name, in which
nothing means anything to an address (`isPlain_of_unescape_eq`). The request for such a name asks
for the service (`asks_of_isPlain`).
-/

namespace Roster.Consul

/-! ## Segments -/

theorem segments_ne_nil (cs : List Char) : segments cs ≠ [] := by
  cases cs with
  | nil => exact List.cons_ne_nil _ _
  | cons c rest =>
    unfold segments
    split
    · exact List.cons_ne_nil _ _
    · split <;> exact List.cons_ne_nil _ _

theorem segments_cons {c : Char} (h : ¬(c = '/' ∨ c = '\\')) (rest : List Char) :
    ∃ s more, segments rest = s :: more ∧ segments (c :: rest) = (c :: s) :: more := by
  obtain ⟨s, more, hrest⟩ := List.exists_cons_of_ne_nil (segments_ne_nil rest)
  exact ⟨s, more, hrest, by rw [segments, if_neg h, hrest]⟩

theorem segments_eq_singleton {cs : List Char} (h : ∀ c ∈ cs, ¬(c = '/' ∨ c = '\\')) :
    segments cs = [cs] := by
  induction cs with
  | nil => rfl
  | cons c cs ih =>
    rw [segments, if_neg (h c List.mem_cons_self), ih fun x hx => h x (List.mem_cons_of_mem c hx)]

theorem sublist_of_getLast?_segments {cs s : List Char} (h : (segments cs).getLast? = some s) :
    s.Sublist cs ∧ ∀ c ∈ s, ¬(c = '/' ∨ c = '\\') := by
  induction cs generalizing s with
  | nil =>
    obtain rfl : [] = s := Option.some.inj h
    exact ⟨List.Sublist.refl _, nofun⟩
  | cons c cs ih =>
    by_cases hc : c = '/' ∨ c = '\\'
    · obtain ⟨first, more, hcs⟩ := List.exists_cons_of_ne_nil (segments_ne_nil cs)
      rw [segments, if_pos hc, hcs, List.getLast?_cons_cons, ← hcs] at h
      exact ⟨(ih h).1.cons c, (ih h).2⟩
    · obtain ⟨first, more, hcs, heq⟩ := segments_cons hc cs
      rw [heq] at h
      cases more with
      | nil =>
        obtain rfl : c :: first = s := Option.some.inj h
        obtain ⟨hsub, hslash⟩ := ih (s := first) (by rw [hcs]; rfl)
        exact ⟨hsub.cons_cons c, List.forall_mem_cons.mpr ⟨hc, hslash⟩⟩
      | cons next more =>
        rw [List.getLast?_cons_cons, ← List.getLast?_cons_cons (a := first), ← hcs] at h
        exact ⟨(ih h).1.cons c, (ih h).2⟩

theorem getLast?_resolveDots (done : List (List Char)) {segs : List (List Char)} (h : segs ≠ []) :
    ∃ s, (resolveDots done segs).getLast? = some s ∧
      (s = [] ∨ segs.getLast? = some s ∧ plainDots s ≠ ['.'] ∧ plainDots s ≠ ['.', '.']) := by
  induction segs generalizing done with
  | nil => exact absurd rfl h
  | cons s rest ih =>
    cases rest with
    | nil =>
      unfold resolveDots
      split
      · exact ⟨[], by rw [List.getLast?_reverse]; rfl, Or.inl rfl⟩
      · next hback =>
        split
        · exact ⟨[], by rw [List.getLast?_reverse]; rfl, Or.inl rfl⟩
        · next hstay =>
          exact ⟨s, by rw [List.getLast?_reverse]; rfl, Or.inr ⟨rfl, hstay, hback⟩⟩
    | cons next rest =>
      rw [List.getLast?_cons_cons]
      unfold resolveDots
      split
      · exact ih _ (List.cons_ne_nil _ _)
      · split
        · exact ih _ (List.cons_ne_nil _ _)
        · exact ih _ (List.cons_ne_nil _ _)

/-! ## Addresses -/

def httpScheme : List Char := "http://".toList

def healthPath : List Char := "v1/health/service/".toList

def IsHost (host : List Char) : Prop :=
  host ≠ [] ∧ ∀ c ∈ host, isMargin c = false ∧ c ∉ ['/', '\\', '?', '#']

/-- A host and a port. -/
def authority (host : List Char) (port : Nat) : List Char := host ++ ':' :: portDigits port

/-- What stands in front of the name of a service in an address. -/
def front (host : List Char) (port : Nat) : List Char :=
  httpScheme ++ (authority host port ++ '/' :: healthPath)

/-- What is left of the name of a service once its end is cleaned and a fragment is left out. -/
def kept (name : List Char) : List Char :=
  (((name.reverse.dropWhile isMargin).reverse).filter
    fun c => !(c = '\t' || c = '\n' || c = '\r')).takeWhile (· != '#')

/-- The path that is left of the name of a service. -/
def keptPath (name : List Char) : List Char := (kept name).takeWhile (· != '?')

def keptQuery (name : List Char) : List Char :=
  escapeUnless isQueryChar (((kept name).dropWhile (· != '?')).drop 1)

section Base

variable {host : List Char} (hhost : IsHost host) (port : Nat)

theorem of_mem_portDigits {c : Char} (h : c ∈ portDigits port) :
    isMargin c = false ∧ c ∉ ['/', '\\', '?', '#'] := by
  have hdigit := isDigit_of_mem_portDigits h
  have hlow : 48 ≤ c.toNat := by
    rw [Char.isDigit, Bool.and_eq_true, decide_eq_true_eq] at hdigit
    exact hdigit.1
  constructor
  · rw [isMargin, decide_eq_false_iff_not]
    omega
  · intro hmem
    simp only [List.mem_cons, List.not_mem_nil, or_false] at hmem
    rcases hmem with rfl | rfl | rfl | rfl <;> exact absurd hdigit (by decide)

include hhost in
theorem of_mem_authority {c : Char} (h : c ∈ authority host port) :
    isMargin c = false ∧ c ∉ ['/', '\\', '?', '#'] := by
  rw [authority, List.mem_append, List.mem_cons] at h
  rcases h with h | rfl | h
  · exact hhost.2 c h
  · decide
  · exact of_mem_portDigits port h

include hhost in
theorem of_mem_front {c : Char} (h : c ∈ front host port) :
    isMargin c = false ∧ (c != '#') = true ∧ (c != '?') = true := by
  have hscheme : ∀ c ∈ httpScheme,
      isMargin c = false ∧ (c != '#') = true ∧ (c != '?') = true :=
    List.all_iff_forall_prop.mp (by decide)
  have hpath : ∀ c ∈ '/' :: healthPath,
      isMargin c = false ∧ (c != '#') = true ∧ (c != '?') = true :=
    List.all_iff_forall_prop.mp (by decide)
  rw [front, List.mem_append, List.mem_append] at h
  rcases h with h | h | h
  · exact hscheme c h
  · obtain ⟨hmargin, hnot⟩ := of_mem_authority hhost port h
    simp only [List.mem_cons, List.not_mem_nil, or_false, not_or] at hnot
    exact ⟨hmargin, bne_iff_ne.mpr hnot.2.2.2, bne_iff_ne.mpr hnot.2.2.1⟩
  · exact hpath c h

include hhost in
theorem takeWhile_cleaned_front (name : List Char) :
    (cleaned (front host port ++ name)).takeWhile (· != '#') = front host port ++ kept name := by
  have hfront (c : Char) (hc : c ∈ front host port) := of_mem_front hhost port hc
  have hstart : (front host port ++ name).dropWhile isMargin = front host port ++ name := rfl
  have hend : (front host port).reverse.dropWhile isMargin = (front host port).reverse := by
    cases hreverse : (front host port).reverse with
    | nil => rfl
    | cons c rest =>
      have hc : c ∈ front host port := List.mem_reverse.mp (hreverse ▸ List.mem_cons_self)
      rw [List.dropWhile_cons, (hfront c hc).1]
      rfl
  have htrim : ((front host port ++ name).reverse.dropWhile isMargin).reverse =
      front host port ++ (name.reverse.dropWhile isMargin).reverse := by
    rw [List.reverse_append, List.dropWhile_append, hend]
    split
    · next hall => rw [List.isEmpty_iff.mp hall, List.reverse_reverse]; simp
    · rw [List.reverse_append, List.reverse_reverse]
  have hfilter : (front host port).filter (fun c => !(c = '\t' || c = '\n' || c = '\r')) =
      front host port := by
    refine List.filter_eq_self.mpr fun c hc => ?_
    have hmargin := (hfront c hc).1
    rw [Bool.not_eq_true', ← Bool.not_eq_true]
    intro hskipped
    simp only [Bool.or_eq_true, decide_eq_true_eq] at hskipped
    rcases hskipped with (rfl | rfl) | rfl <;> exact absurd hmargin (by decide)
  unfold cleaned
  dsimp only
  rw [hstart, htrim, List.filter_append, hfilter,
    List.takeWhile_append_of_pos fun c hc => (hfront c hc).2.1, kept]

theorem afterScheme_httpScheme (rest : List Char) : afterScheme (httpScheme ++ rest) = rest := rfl

include hhost in
/-- What a request carries that ends with a name: the path and the query that are left of it. -/
theorem requestTarget_front (name : List Char) (pairs : List (String × String)) :
    requestTarget (front host port ++ name) pairs =
      (resolveDots [] (segments (healthPath ++ keptPath name))).flatMap
          (fun s => '/' :: escapeUnless isPathChar s) ++
        '?' :: (if (keptQuery name).isEmpty then formPairs pairs
          else keptQuery name ++ '&' :: formPairs pairs) := by
  have hfront (c : Char) (hc : c ∈ front host port) := of_mem_front hhost port hc
  have hquery (c : Char) (hc : c ∈ authority host port ++ '/' :: healthPath) :
      (c != '?') = true := (hfront c (List.mem_append_right _ hc)).2.2
  have hslash (c : Char) (hc : c ∈ authority host port) :
      (c != '/' && c != '\\') = true := by
    have hnot := (of_mem_authority hhost port hc).2
    simp only [List.mem_cons, List.not_mem_nil, or_false, not_or] at hnot
    rw [Bool.and_eq_true, bne_iff_ne, bne_iff_ne]
    exact ⟨hnot.1, hnot.2.1⟩
  have hpath : (afterScheme (front host port ++ kept name)).takeWhile (· != '?') =
      authority host port ++ '/' :: (healthPath ++ keptPath name) := by
    rw [front, List.append_assoc, afterScheme_httpScheme, List.takeWhile_append_of_pos hquery,
      List.append_assoc, List.cons_append, keptPath]
  unfold requestTarget
  rw [takeWhile_cleaned_front hhost port name]
  dsimp only
  rw [hpath, List.dropWhile_append_of_pos hslash,
    List.dropWhile_append_of_pos fun c hc => (hfront c hc).2.2]
  rfl

end Base

/-! ## Names that arrive whole -/

/-- Nothing in a name means anything to an address. -/
structure IsPlain (name : List Char) : Prop where
  noMark : ∀ c ∈ name, c ∉ ['/', '\\', '?', '#', '\t', '\n', '\r']
  noMargin : ∀ c, name.getLast? = some c → isMargin c = false
  notDots : name ≠ ['.'] ∧ name ≠ ['.', '.']
  noEscape : hasEscape name = false

def healthPairs (datacenter : Option String) : List (String × String) :=
  ("passing", "true") :: (datacenter.map fun dc => ("dc", dc)).toList

/-- What a request carries asks for the healthy instances of a service, in a datacenter if one is
given, and for nothing else. -/
def Asks (target service : String) (datacenter : Option String) : Prop :=
  ∃ segment query : List Char, target.toList = '/' :: (healthPath ++ segment) ++ '?' :: query ∧
    '/' ∉ segment ∧ '?' ∉ segment ∧ unescape segment = service.toUTF8.toList ∧
    formDecode query =
      (healthPairs datacenter).map fun p => (p.1.toUTF8.toList, p.2.toUTF8.toList)

theorem isPathChar_of_hexValue? {c : Char} (h : (hexValue? c).isSome = true) :
    isPathChar c = true := by
  have hrange := hexValue?_eq_some h
  have hlow : '!' ≤ c := by
    rcases hrange with hc | hc | hc <;> exact Char.le_trans (by decide) hc.1
  have hhigh : c ≤ '~' := by
    rcases hrange with hc | hc | hc <;> exact Char.le_trans hc.2 (by decide)
  have hnot : "\"#<>?^\x60\x7b\x7d".toList.contains c = false := by
    have hout : ∀ d ∈ "\"#<>?^\x60\x7b\x7d".toList,
        ¬(('0' ≤ d ∧ d ≤ '9') ∨ ('A' ≤ d ∧ d ≤ 'F') ∨ ('a' ≤ d ∧ d ≤ 'f')) :=
      List.all_iff_forall_prop.mp (by decide)
    rw [← Bool.not_eq_true, List.contains_iff_mem]
    exact fun hmem => hout c hmem hrange
  rw [isPathChar, isVisible, hnot, decide_eq_true hlow, decide_eq_true hhigh]
  rfl

theorem unescape_escapeUnless_isPathChar (cs : List Char) :
    unescape (escapeUnless isPathChar cs) = unescape cs :=
  unescape_escapeUnless (by decide) (fun _ h => isPathChar_of_hexValue? h) cs

theorem hasEscape_of_tail {c : Char} {rest : List Char} (h : hasEscape (c :: rest) = false) :
    hasEscape rest = false := by
  match rest with
  | [] | [_] => rfl
  | x :: y :: more =>
    rw [hasEscape, Bool.or_eq_false_iff] at h
    exact h.2

theorem plainDots_of_not_hasEscape {cs : List Char} (h : hasEscape cs = false) :
    plainDots cs = cs := by
  induction cs using plainDots.induct with
  | case1 rest ih =>
    rw [hasEscape] at h
    cases h
  | case2 rest ih =>
    rw [hasEscape] at h
    cases h
  | case3 c rest hlower hupper ih =>
    rw [plainDots, ih (hasEscape_of_tail h)]
    · exact hlower
    · exact hupper
  | case4 => rfl

section Plain

variable {name : List Char}

theorem kept_of_isPlain (h : IsPlain name) : kept name = name := by
  have hmark (c : Char) (hc : c ∈ name) := h.noMark c hc
  simp only [List.mem_cons, List.not_mem_nil, or_false, not_or] at hmark
  have htrim : name.reverse.dropWhile isMargin = name.reverse := by
    cases hreverse : name.reverse with
    | nil => rfl
    | cons c rest =>
      have hlast : name.getLast? = some c := by
        rw [← List.head?_reverse, hreverse]
        rfl
      rw [List.dropWhile_cons, h.noMargin c hlast]
      rfl
  have hfilter : name.filter (fun c => !(c = '\t' || c = '\n' || c = '\r')) = name := by
    refine List.filter_eq_self.mpr fun c hc => ?_
    obtain ⟨_, _, _, _, htab, hnewline, hreturn⟩ := hmark c hc
    simp [htab, hnewline, hreturn]
  rw [kept, htrim, List.reverse_reverse, hfilter]
  exact List.takeWhile_eq_self_iff.mpr fun c hc => bne_iff_ne.mpr (hmark c hc).2.2.2.1

theorem keptPath_of_isPlain (h : IsPlain name) : keptPath name = name := by
  have hmark (c : Char) (hc : c ∈ name) := h.noMark c hc
  simp only [List.mem_cons, List.not_mem_nil, or_false, not_or] at hmark
  rw [keptPath, kept_of_isPlain h]
  exact List.takeWhile_eq_self_iff.mpr fun c hc => bne_iff_ne.mpr (hmark c hc).2.2.1

theorem keptQuery_of_isPlain (h : IsPlain name) : keptQuery name = [] := by
  have hmark (c : Char) (hc : c ∈ name) := h.noMark c hc
  simp only [List.mem_cons, List.not_mem_nil, or_false, not_or] at hmark
  rw [keptQuery, kept_of_isPlain h,
    List.dropWhile_eq_nil_iff.mpr fun c hc => bne_iff_ne.mpr (hmark c hc).2.2.1]
  rfl

theorem segments_healthPath (cs : List Char) :
    segments (healthPath ++ cs) = ["v1".toList, "health".toList, "service".toList] ++ segments cs :=
  rfl

theorem resolveDots_of_isPlain (h : IsPlain name) :
    resolveDots [] (segments (healthPath ++ keptPath name)) =
      ["v1".toList, "health".toList, "service".toList, name] := by
  have hmark (c : Char) (hc : c ∈ name) : ¬(c = '/' ∨ c = '\\') := by
    have hnot := h.noMark c hc
    simp only [List.mem_cons, List.not_mem_nil, or_false, not_or] at hnot
    exact not_or.mpr ⟨hnot.1, hnot.2.1⟩
  have hdots := plainDots_of_not_hasEscape h.noEscape
  have hname : resolveDots ["service".toList, "health".toList, "v1".toList] [name] =
      ["v1".toList, "health".toList, "service".toList, name] := by
    unfold resolveDots
    rw [hdots, if_neg h.notDots.2, if_neg h.notDots.1]
    rfl
  rw [segments_healthPath, keptPath_of_isPlain h, segments_eq_singleton hmark]
  exact hname

theorem flatMap_escapeUnless_healthPath (name : List Char) :
    (["v1".toList, "health".toList, "service".toList, name].flatMap fun s =>
        '/' :: escapeUnless isPathChar s) =
      '/' :: (healthPath ++ escapeUnless isPathChar name) := by
  have hfixed : (["v1".toList, "health".toList, "service".toList].flatMap fun s =>
      '/' :: escapeUnless isPathChar s) ++ ['/'] = '/' :: healthPath := by decide
  rw [← List.cons_append, ← hfixed, List.append_assoc]
  show (["v1".toList, "health".toList, "service".toList] ++ [name]).flatMap _ = _
  rw [List.flatMap_append, List.flatMap_singleton]
  rfl

theorem requestTarget_of_isPlain {host : List Char} (hhost : IsHost host) (port : Nat)
    (h : IsPlain name) (pairs : List (String × String)) :
    requestTarget (front host port ++ name) pairs =
      '/' :: (healthPath ++ escapeUnless isPathChar name) ++ '?' :: formPairs pairs := by
  rw [requestTarget_front hhost, resolveDots_of_isPlain h, keptQuery_of_isPlain h,
    flatMap_escapeUnless_healthPath, List.isEmpty_nil, if_pos rfl]

end Plain

theorem asks_of_isPlain {target service : String} {datacenter : Option String}
    (h : IsPlain service.toList)
    (htarget : target.toList = '/' :: (healthPath ++ escapeUnless isPathChar service.toList) ++
      '?' :: formPairs (healthPairs datacenter)) :
    Asks target service datacenter := by
  have hslash : '/' ∉ service.toList := fun hmem => h.noMark '/' hmem (by decide)
  refine ⟨escapeUnless isPathChar service.toList, formPairs (healthPairs datacenter), htarget,
    not_mem_escapeUnless (by decide) (Or.inr hslash),
    not_mem_escapeUnless (by decide) (Or.inl (by decide)), ?name, ?pairs⟩
  case name =>
    rw [unescape_escapeUnless_isPathChar, unescape_of_not_hasEscape h.noEscape, toList_toUTF8]
  case pairs =>
    rw [formDecode_formPairs (healthPairs datacenter) (List.cons_ne_nil _ _)]
    exact List.map_congr_left fun p _ => by rw [toList_toUTF8, toList_toUTF8]

theorem parts_unique {mark : Char} {before before' after after' : List Char} (h : mark ∉ before)
    (h' : mark ∉ before') (heq : before ++ mark :: after = before' ++ mark :: after') :
    before = before' := by
  have htake {before after : List Char} (h : mark ∉ before) :
      (before ++ mark :: after).takeWhile (· != mark) = before := by
    rw [List.takeWhile_append_of_pos fun c hc => bne_iff_ne.mpr (ne_of_mem_of_not_mem hc h),
      List.takeWhile_cons, bne_self_eq_false]
    exact List.append_nil before
  rw [← htake h, heq, htake h']

theorem lastPart_unique {mark : Char} {before before' after after' : List Char} (h : mark ∉ after)
    (h' : mark ∉ after') (heq : before ++ mark :: after = before' ++ mark :: after') :
    after = after' := by
  have hbehind := congrArg List.reverse heq
  rw [List.reverse_append, List.reverse_append, List.reverse_cons, List.reverse_cons,
    List.append_assoc, List.append_assoc] at hbehind
  have hreversed := parts_unique (fun hmem => h (List.mem_reverse.mp hmem))
    (fun hmem => h' (List.mem_reverse.mp hmem)) hbehind
  exact List.reverse_injective hreversed

theorem not_mem_healthPath_append {segment : List Char} (h : '?' ∉ segment) :
    '?' ∉ '/' :: (healthPath ++ segment) := by
  have hfixed : '?' ∉ '/' :: healthPath := by decide
  rw [← List.cons_append, List.mem_append]
  exact not_or.mpr ⟨hfixed, h⟩

/-- No request asks for two services. -/
theorem Asks.unique {target service service' : String} {datacenter datacenter' : Option String}
    (h : Asks target service datacenter) (h' : Asks target service' datacenter') :
    service = service' := by
  obtain ⟨segment, query, htarget, _, hmark, hname, _⟩ := h
  obtain ⟨segment', query', htarget', _, hmark', hname', _⟩ := h'
  have hpaths := parts_unique (not_mem_healthPath_append hmark) (not_mem_healthPath_append hmark')
    (htarget.symm.trans htarget')
  obtain rfl := List.append_cancel_left (List.cons.inj hpaths).2
  exact toUTF8_injective (hname.symm.trans hname')

/-! ## Names that do not -/

/-- The last segment of the path that a request carries comes from characters of the name. -/
theorem exists_of_requestTarget_eq {host : List Char} (hhost : IsHost host) (port : Nat)
    {name segment query : List Char} {pairs : List (String × String)}
    (htarget : requestTarget (front host port ++ name) pairs =
      '/' :: (healthPath ++ segment) ++ '?' :: query)
    (hslash : '/' ∉ segment) (hmark : '?' ∉ segment) :
    ∃ s, segment = escapeUnless isPathChar s ∧ s.Sublist (keptPath name) ∧
      (∀ c ∈ s, ¬(c = '/' ∨ c = '\\')) ∧ plainDots s ≠ ['.'] ∧ plainDots s ≠ ['.', '.'] := by
  obtain ⟨s, hlast, hs⟩ :=
    getLast?_resolveDots [] (segments_ne_nil (healthPath ++ keptPath name))
  have hs' : s.Sublist (keptPath name) ∧ (∀ c ∈ s, ¬(c = '/' ∨ c = '\\')) ∧
      plainDots s ≠ ['.'] ∧ plainDots s ≠ ['.', '.'] := by
    rcases hs with rfl | ⟨hsegment, hdots⟩
    · exact ⟨List.nil_sublist _, nofun, by decide, by decide⟩
    · rw [segments_healthPath, List.getLast?_append_of_ne_nil _ (segments_ne_nil _)] at hsegment
      obtain ⟨hsub, hnot⟩ := sublist_of_getLast?_segments hsegment
      exact ⟨hsub, hnot, hdots⟩
  refine ⟨s, ?_, hs'⟩
  have hpath (done : List (List Char)) :
      '?' ∉ done.flatMap fun s => '/' :: escapeUnless isPathChar s := by
    intro hmem
    obtain ⟨s, _, hs⟩ := List.mem_flatMap.mp hmem
    rcases List.mem_cons.mp hs with heq | hs
    · exact absurd heq (by decide)
    · exact not_mem_escapeUnless (by decide) (Or.inl (by decide)) hs
  have hescaped : '/' ∉ escapeUnless isPathChar s :=
    not_mem_escapeUnless (by decide) (Or.inr fun hmem => hs'.2.1 '/' hmem (Or.inl rfl))
  obtain ⟨before, hresolved⟩ := List.getLast?_eq_some_iff.mp hlast
  rw [requestTarget_front hhost] at htarget
  have hpaths := parts_unique (hpath _) (not_mem_healthPath_append hmark) htarget
  rw [hresolved, List.flatMap_append, List.flatMap_singleton] at hpaths
  have hfront :
      '/' :: (healthPath ++ segment) = "/v1/health/service".toList ++ '/' :: segment := rfl
  rw [hfront] at hpaths
  exact (lastPart_unique hescaped hslash hpaths).symm

/-- Reading an address takes characters off a name. If none is missing, the name went through each
step as it is: its end was trimmed, characters that do not count were left out, and it was cut at a
number sign and at a question mark. -/
theorem keptPath_sublist (name : List Char) :
    (keptPath name).Sublist name ∧
      (name.Sublist (keptPath name) →
        (name.reverse.dropWhile isMargin).reverse = name ∧
        (name.filter fun c => !(c = '\t' || c = '\n' || c = '\r')) = name ∧
        name.takeWhile (· != '#') = name ∧ name.takeWhile (· != '?') = name) := by
  have htrim : (name.reverse.dropWhile isMargin).reverse.Sublist name :=
    List.reverse_sublist.mp (by rw [List.reverse_reverse]; exact List.dropWhile_sublist _)
  have hfilter := List.filter_sublist (l := (name.reverse.dropWhile isMargin).reverse)
    (p := fun c => !(c = '\t' || c = '\n' || c = '\r'))
  have hcut : (kept name).Sublist ((name.reverse.dropWhile isMargin).reverse.filter
      fun c => !(c = '\t' || c = '\n' || c = '\r')) := (List.takeWhile_prefix _).sublist
  have hpath : (keptPath name).Sublist (kept name) := (List.takeWhile_prefix _).sublist
  refine ⟨hpath.trans (hcut.trans (hfilter.trans htrim)), fun hall => ?_⟩
  have htrimmed := htrim.antisymm (hall.trans (hpath.trans (hcut.trans hfilter)))
  have hfiltered := (hfilter.trans htrim).antisymm (hall.trans (hpath.trans hcut))
  have hkept := (hcut.trans (hfilter.trans htrim)).antisymm (hall.trans hpath)
  have hkeptPath := (hpath.trans (hcut.trans (hfilter.trans htrim))).antisymm hall
  rw [htrimmed] at hfiltered
  rw [keptPath, hkept] at hkeptPath
  rw [kept, htrimmed, hfiltered] at hkept
  exact ⟨htrimmed, hfiltered, hkept, hkeptPath⟩

/-- The request for a name asks for no service of that name unless the name is plain. -/
theorem isPlain_of_unescape_eq {name s : List Char} (hsub : s.Sublist (keptPath name))
    (hslash : ∀ c ∈ s, ¬(c = '/' ∨ c = '\\')) (hdot : plainDots s ≠ ['.'])
    (hdots : plainDots s ≠ ['.', '.']) (hname : unescape s = textBytes name) : IsPlain name := by
  -- An escape stands for fewer bytes, and a character that went cannot come back.
  have hlength : (textBytes name).length ≤ (textBytes s).length := hname ▸ length_unescape_le s
  obtain rfl : s = name :=
    eq_of_sublist_of_length_textBytes_le (hsub.trans (keptPath_sublist name).1) hlength
  obtain ⟨htrimmed, hfiltered, hfragment, hquery⟩ := (keptPath_sublist s).2 hsub
  constructor
  case noMark =>
    intro c hc hmark
    have hcounts : (!(c = '\t' || c = '\n' || c = '\r')) = true :=
      List.filter_eq_self.mp hfiltered c hc
    have hnumber : (c != '#') = true := List.takeWhile_eq_self_iff.mp hfragment c hc
    have hquestion : (c != '?') = true := List.takeWhile_eq_self_iff.mp hquery c hc
    simp only [List.mem_cons, List.not_mem_nil, or_false] at hmark
    rcases hmark with rfl | rfl | rfl | rfl | rfl | rfl | rfl
    · exact hslash '/' hc (Or.inl rfl)
    · exact hslash '\\' hc (Or.inr rfl)
    · exact absurd hquestion (by decide)
    · exact absurd hnumber (by decide)
    · exact absurd hcounts (by decide)
    · exact absurd hcounts (by decide)
    · exact absurd hcounts (by decide)
  case noMargin =>
    intro c hlast
    have hhead := List.head?_dropWhile_not isMargin s.reverse
    have hreverse : s.reverse.dropWhile isMargin = s.reverse := List.reverse_eq_iff.mp htrimmed
    rw [hreverse, List.head?_reverse, hlast] at hhead
    exact hhead
  case notDots => exact ⟨fun h => hdot (by rw [h]; rfl), fun h => hdots (by rw [h]; rfl)⟩
  case noEscape =>
    rw [← Bool.not_eq_true]
    intro hescape
    exact absurd (length_unescape_lt hescape) (by rw [hname]; exact Nat.lt_irrefl _)

end Roster.Consul

namespace Roster.ConsulClient

open Consul

/-! ## Requests of a client -/

/-- The text of a base address, with slashes at its end. -/
def baseText (host : List Char) (port slashes : Nat) : String :=
  String.ofList (httpScheme ++ authority host port ++ List.replicate slashes '/')

theorem create_baseText {host : List Char} (hhost : IsHost host) (port slashes : Nat)
    (datacenter : Option String) :
    create (baseText host port slashes) datacenter =
      .ok ⟨String.ofList (httpScheme ++ authority host port), datacenter.filter (· != "")⟩ := by
  have hslashes : ∀ c ∈ List.replicate slashes '/', decide (c = '/') = true := fun c hc =>
    decide_eq_true (List.eq_of_mem_replicate hc)
  have hbase : (authority host port).reverse.dropWhile (fun c => decide (c = '/')) =
      (authority host port).reverse := by
    cases hreverse : (authority host port).reverse with
    | nil => rfl
    | cons c rest =>
      have hc : c ∈ authority host port := List.mem_reverse.mp (hreverse ▸ List.mem_cons_self)
      have hnot : c ≠ '/' := fun heq => (of_mem_authority hhost port hc).2 (by simp [heq])
      rw [List.dropWhile_cons, decide_eq_false hnot]
      rfl
  have hne : (authority host port).reverse.isEmpty = false := by
    simp [authority]
  have htrim : (((httpScheme ++ authority host port ++ List.replicate slashes '/').reverse.dropWhile
      fun c => decide (c = '/'))).reverse = httpScheme ++ authority host port := by
    rw [List.reverse_append, List.reverse_replicate, List.dropWhile_append_of_pos hslashes,
      List.reverse_append, List.dropWhile_append, hbase, hne, if_neg Bool.false_ne_true,
      ← List.reverse_append, List.reverse_reverse]
  unfold create baseText
  rw [String.toList_ofList, htrim]
  rfl

theorem toList_requestTarget (host : List Char) (port : Nat) (datacenter : Option String)
    (service : String) :
    (requestTarget ⟨String.ofList (httpScheme ++ authority host port), datacenter⟩ service).toList =
      Consul.requestTarget (front host port ++ service.toList) (healthPairs datacenter) := by
  have hpath : "/v1/health/service/".toList = '/' :: healthPath := rfl
  rw [requestTarget, String.toList_ofList, healthAddress, String.toList_append,
    String.toList_append, String.toList_ofList, hpath, List.append_assoc httpScheme]
  rfl

/-- The request for a service asks for exactly that service, in the datacenter of the client, if
nothing in the service's name means anything to an address. It does not for any other name: a part
of the name is taken for a segment of its own, for a query or for a fragment, is left out, or is
read as an escape. Requests for different services of plain names are different. -/
theorem requests_exact {host : List Char} (hhost : IsHost host) (port slashes : Nat)
    (datacenter : Option String) :
    ∃ c, create (baseText host port slashes) datacenter = .ok c ∧
      c.datacenter = datacenter.filter (· != "") ∧
      (∀ service, Asks (c.requestTarget service) service c.datacenter ↔
        IsPlain service.toList) ∧
      ∀ service service', IsPlain service.toList → IsPlain service'.toList →
        c.requestTarget service = c.requestTarget service' → service = service' := by
  refine ⟨_, create_baseText hhost port slashes datacenter, rfl, ?_⟩
  generalize datacenter.filter (· != "") = dc
  have hplain (service : String) (h : IsPlain service.toList) :
      Asks (requestTarget ⟨String.ofList (httpScheme ++ authority host port), dc⟩ service) service
        dc := by
    refine asks_of_isPlain h ?_
    rw [toList_requestTarget, requestTarget_of_isPlain hhost port h]
  refine ⟨fun service => ⟨fun hasks => ?only, hplain service⟩, fun service service' h h' heq => ?_⟩
  case only =>
    obtain ⟨segment, query, htarget, hslash, hmark, hname, _⟩ := hasks
    rw [toList_requestTarget] at htarget
    obtain ⟨s, rfl, hsub, hnot, hdot, hdots⟩ :=
      exists_of_requestTarget_eq hhost port htarget hslash hmark
    rw [unescape_escapeUnless_isPathChar, toList_toUTF8] at hname
    exact isPlain_of_unescape_eq hsub hnot hdot hdots hname
  · have hasks := hplain service' h'
    rw [← heq] at hasks
    exact (hplain service h).unique hasks

/-- Blanks, letters of any script and percent signs arrive in a name, and so does a datacenter with
the notation of a form in it. A slash makes two segments of a name. -/
theorem requests_exact_local :
    let c : ConsulClient := ⟨"http://127.0.0.1:8500", some "a&b=c"⟩
    IsHost "127.0.0.1".toList ∧
      create "http://127.0.0.1:8500//" (some "a&b=c") = .ok c ∧
      Asks (c.requestTarget "100% 日本") "100% 日本" (some "a&b=c") ∧
      ¬Asks (c.requestTarget "a/b") "a/b" (some "a&b=c") := by
  intro c
  have hhost : IsHost "127.0.0.1".toList :=
    ⟨by decide, List.all_iff_forall_prop.mp (by decide)⟩
  have hbase : baseText "127.0.0.1".toList 8500 2 = "http://127.0.0.1:8500//" := by decide
  have hcreate : create "http://127.0.0.1:8500//" (some "a&b=c") = .ok c := by decide
  obtain ⟨c', hcreate', _, hasks, _⟩ := requests_exact hhost 8500 2 (some "a&b=c")
  rw [hbase, hcreate] at hcreate'
  obtain rfl := Except.ok.inj hcreate'
  have hplain : IsPlain "100% 日本".toList :=
    ⟨List.all_iff_forall_prop.mp (by decide),
      fun d hd => by obtain rfl := Option.some.inj hd; decide, by decide, by decide⟩
  have hslash : ¬IsPlain "a/b".toList := fun h => absurd (h.noMark '/' (by decide)) (by decide)
  exact ⟨hhost, hcreate, (hasks _).mpr hplain, fun h => hslash ((hasks _).mp h)⟩

/-- The request for one service asks for another one: what follows a number sign is left out. -/
theorem request_of_other_service :
    let c : ConsulClient := ⟨"http://127.0.0.1:8500", none⟩
    create "http://127.0.0.1:8500" none = .ok c ∧
      c.requestTarget "orders#eu" = "/v1/health/service/orders?passing=true" ∧
      c.requestTarget "orders#eu" = c.requestTarget "orders" ∧
      Asks (c.requestTarget "orders#eu") "orders" none ∧
      ¬Asks (c.requestTarget "orders#eu") "orders#eu" none := by
  intro c
  have htarget : c.requestTarget "orders#eu" = "/v1/health/service/orders?passing=true" := by decide
  have hplain : IsPlain "orders".toList :=
    ⟨List.all_iff_forall_prop.mp (by decide),
      fun d hd => by obtain rfl := Option.some.inj hd; decide, by decide, by decide⟩
  have hasks : Asks (c.requestTarget "orders#eu") "orders" none :=
    asks_of_isPlain hplain (by decide)
  exact ⟨by decide, htarget, by decide, hasks, fun h => absurd (h.unique hasks) (by decide)⟩

end Roster.ConsulClient
