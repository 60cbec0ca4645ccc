import Roster.Consul.Address

/-!
# What escapes stand for

`unescape` and `unform` read what an address or a form carries, as the receiver of a request does.
What is escaped reads as the bytes of the characters (`unescape_escapeUnless`), except that an
escape among the characters reads as one byte and not as three (`length_unescape_lt`): escaping
leaves it as it is. A form has no such exception (`unform_formPairs`).
-/

namespace Roster.Consul

/-! ## Bytes -/

def textBytes (cs : List Char) : List UInt8 := cs.flatMap charBytes

theorem loop_toList_eq (bytes : ByteArray) (i : Nat) (done : List UInt8) :
    ByteArray.toList.loop bytes i done = done.reverse ++ bytes.data.toList.drop i := by
  induction i, done using ByteArray.toList.loop.induct bytes with
  | case1 i done hi ih =>
    have hi' : i < bytes.data.toList.length := hi
    have hget : bytes.get! i = bytes.data.toList[i] := getElem!_pos bytes.data i hi
    rw [ByteArray.toList.loop, if_pos hi, ih, List.drop_eq_getElem_cons hi', List.reverse_cons,
      List.append_assoc, List.singleton_append, hget]
  | case2 i done hi =>
    have hi' : bytes.data.toList.length ≤ i := Nat.le_of_not_lt hi
    rw [ByteArray.toList.loop, if_neg hi, List.drop_eq_nil_of_le hi', List.append_nil]

theorem toList_byteArray (bytes : ByteArray) : bytes.toList = bytes.data.toList := by
  rw [ByteArray.toList, loop_toList_eq]
  rfl

theorem toList_utf8Encode (cs : List Char) :
    cs.utf8Encode.toList = cs.flatMap String.utf8EncodeChar := by
  rw [toList_byteArray, List.utf8Encode, List.data_toByteArray]

theorem charBytes_eq (c : Char) : charBytes c = String.utf8EncodeChar c := by
  rw [charBytes, String.toUTF8, String.toByteArray_singleton, toList_utf8Encode,
    List.flatMap_singleton]

theorem toList_toUTF8 (s : String) : s.toUTF8.toList = textBytes s.toList := by
  rw [String.toUTF8, ← String.ofList_toList (s := s), String.toByteArray_ofList, toList_utf8Encode,
    String.toList_ofList, textBytes]
  exact congrArg (List.flatMap · _) (funext fun c => (charBytes_eq c).symm)

theorem toUTF8_injective {s s' : String} (h : s.toUTF8.toList = s'.toUTF8.toList) : s = s' := by
  rw [toList_byteArray, toList_byteArray] at h
  exact String.toByteArray_inj.mp (ByteArray.ext (Array.toList_inj.mp h))

theorem length_charBytes_pos (c : Char) : 0 < (charBytes c).length := by
  rw [charBytes_eq, String.length_utf8EncodeChar]
  exact c.utf8Size_pos

theorem textBytes_cons (c : Char) (cs : List Char) :
    textBytes (c :: cs) = charBytes c ++ textBytes cs := rfl

theorem length_textBytes_mono {cs cs' : List Char} (h : cs.Sublist cs') :
    (textBytes cs).length ≤ (textBytes cs').length := by
  induction h with
  | slnil => exact Nat.le_refl _
  | cons c h ih =>
    rw [textBytes_cons, List.length_append]
    omega
  | cons_cons c h ih =>
    rw [textBytes_cons, textBytes_cons, List.length_append, List.length_append]
    omega

theorem eq_of_sublist_of_length_textBytes_le {cs cs' : List Char} (h : cs.Sublist cs')
    (hle : (textBytes cs').length ≤ (textBytes cs).length) : cs = cs' := by
  induction h with
  | slnil => rfl
  | cons c h ih =>
    have := length_textBytes_mono h
    have := length_charBytes_pos c
    rw [textBytes_cons, List.length_append] at hle
    omega
  | cons_cons c h ih =>
    rw [textBytes_cons, textBytes_cons, List.length_append, List.length_append] at hle
    rw [ih (by omega)]

/-! ## Escapes -/

def hexValue? (c : Char) : Option Nat :=
  if '0' ≤ c ∧ c ≤ '9' then some (c.toNat - 48)
  else if 'A' ≤ c ∧ c ≤ 'F' then some (c.toNat - 55)
  else if 'a' ≤ c ∧ c ≤ 'f' then some (c.toNat - 87)
  else none

def escapedByte? (c h l : Char) : Option UInt8 :=
  if c = '%' then
    (hexValue? h).bind fun high => (hexValue? l).map fun low => UInt8.ofNat (16 * high + low)
  else none

/-- The bytes for which a text with escapes stands. Characters that are no part of an escape stand
for themselves. -/
def unescape : List Char → List UInt8
  | c :: h :: l :: rest =>
    match escapedByte? c h l with
    | some b => b :: unescape rest
    | none => charBytes c ++ unescape (h :: l :: rest)
  | c :: rest => charBytes c ++ unescape rest
  | [] => []

def hasEscape : List Char → Bool
  | c :: h :: l :: rest => (escapedByte? c h l).isSome || hasEscape (h :: l :: rest)
  | _ => false

theorem hexValue?_eq_some {c : Char} (h : (hexValue? c).isSome = true) :
    ('0' ≤ c ∧ c ≤ '9') ∨ ('A' ≤ c ∧ c ≤ 'F') ∨ ('a' ≤ c ∧ c ≤ 'f') := by
  unfold hexValue? at h
  split at h
  · next hc => exact Or.inl hc
  · split at h
    · next hc => exact Or.inr (Or.inl hc)
    · split at h
      · next hc => exact Or.inr (Or.inr hc)
      · cases h

theorem hexValue?_hexDigit {n : Nat} (h : n < 16) : hexValue? (hexDigit n) = some n := by
  have hall : ∀ n < 16, hexValue? (hexDigit n) = some n := by decide
  exact hall n h

theorem escapedByte?_hexDigit (b : UInt8) :
    escapedByte? '%' (hexDigit (b.toNat / 16)) (hexDigit (b.toNat % 16)) = some b := by
  have hb : b.toNat < 256 := b.toNat_lt
  have hhalves : 16 * (b.toNat / 16) + b.toNat % 16 = b.toNat := Nat.div_add_mod b.toNat 16
  rw [escapedByte?, if_pos rfl, hexValue?_hexDigit (by omega), hexValue?_hexDigit (by omega),
    Option.bind_some, Option.map_some, hhalves, UInt8.ofNat_toNat]

theorem isSome_escapedByte? {c h l : Char} :
    (escapedByte? c h l).isSome = true ↔
      c = '%' ∧ (hexValue? h).isSome = true ∧ (hexValue? l).isSome = true := by
  unfold escapedByte?
  split
  · next hc => cases hexValue? h <;> cases hexValue? l <;> simp [hc]
  · next hc => simp [hc]

theorem unescape_escapeByte_append (b : UInt8) (rest : List Char) :
    unescape (escapeByte b ++ rest) = b :: unescape rest := by
  show unescape ('%' :: hexDigit (b.toNat / 16) :: hexDigit (b.toNat % 16) :: rest) = _
  rw [unescape, escapedByte?_hexDigit]

theorem unescape_escapeBytes_append (bytes : List UInt8) (rest : List Char) :
    unescape (bytes.flatMap escapeByte ++ rest) = bytes ++ unescape rest := by
  induction bytes with
  | nil => rfl
  | cons b bytes ih =>
    rw [List.flatMap_cons, List.append_assoc, unescape_escapeByte_append, ih, List.cons_append]

theorem unescape_cons {c : Char} {rest : List Char}
    (h : ∀ x y more, rest = x :: y :: more → escapedByte? c x y = none) :
    unescape (c :: rest) = charBytes c ++ unescape rest := by
  match rest with
  | [] | [_] => rfl
  | x :: y :: more => rw [unescape, h x y more rfl]

theorem unescape_cons_of_ne {c : Char} (h : c ≠ '%') (rest : List Char) :
    unescape (c :: rest) = charBytes c ++ unescape rest :=
  unescape_cons fun x y _ _ => by rw [escapedByte?, if_neg h]

theorem unescape_of_not_hasEscape {cs : List Char} (h : hasEscape cs = false) :
    unescape cs = textBytes cs := by
  induction cs with
  | nil => rfl
  | cons c rest ih =>
    match rest with
    | [] | [_] => rfl
    | x :: y :: more =>
      rw [hasEscape, Bool.or_eq_false_iff, Option.isSome_eq_false_iff,
        Option.isNone_iff_eq_none] at h
      rw [unescape, h.1, ih h.2, textBytes_cons c]

theorem length_unescape_le (cs : List Char) : (unescape cs).length ≤ (textBytes cs).length := by
  induction cs using unescape.induct with
  | case1 c h l rest b hb ih =>
    have := length_charBytes_pos c
    rw [unescape, hb, textBytes_cons, textBytes_cons, textBytes_cons]
    simp only [List.length_cons, List.length_append]
    omega
  | case2 c h l rest hnone ih =>
    rw [unescape, hnone, textBytes_cons]
    simp only [List.length_append]
    omega
  | case3 c rest hshort ih =>
    rw [unescape_cons fun x y more heq => (hshort x y more heq).elim, textBytes_cons]
    simp only [List.length_append]
    omega
  | case4 => exact Nat.le_refl _

/-- An escape stands for fewer bytes than its characters have. -/
theorem length_unescape_lt {cs : List Char} (h : hasEscape cs = true) :
    (unescape cs).length < (textBytes cs).length := by
  induction cs using unescape.induct with
  | case1 c x y rest b hb ih =>
    have := length_unescape_le rest
    have := length_charBytes_pos c
    have := length_charBytes_pos x
    rw [unescape, hb, textBytes_cons, textBytes_cons, textBytes_cons]
    simp only [List.length_cons, List.length_append]
    omega
  | case2 c x y rest hnone ih =>
    rw [hasEscape, hnone] at h
    have := ih h
    rw [unescape, hnone, textBytes_cons]
    simp only [List.length_append]
    omega
  | case3 c rest hshort ih =>
    match rest with
    | [] | [_] => cases h
    | x :: y :: more => exact (hshort x y more rfl).elim
  | case4 => cases h

/-! ## Escaping -/

section EscapeUnless

variable {safe : Char → Bool} (hpercent : safe '%' = true)
  (hdigit : ∀ c, (hexValue? c).isSome = true → safe c = true)

theorem escapeUnless_cons_of_safe {c : Char} (h : safe c = true) (rest : List Char) :
    escapeUnless safe (c :: rest) = c :: escapeUnless safe rest := by
  rw [escapeUnless, List.flatMap_cons, if_pos h]
  rfl

theorem escapeUnless_cons_of_not_safe {c : Char} (h : safe c = false) (rest : List Char) :
    escapeUnless safe (c :: rest) = escapeChar c ++ escapeUnless safe rest := by
  rw [escapeUnless, List.flatMap_cons, h]
  rfl

theorem exists_escapeChar_eq (c : Char) : ∃ tail, escapeChar c = '%' :: tail := by
  obtain ⟨b, bytes, hbytes⟩ := List.exists_cons_of_length_pos (length_charBytes_pos c)
  exact ⟨_, by rw [escapeChar, hbytes, List.flatMap_cons, escapeByte, List.cons_append]⟩

theorem exists_of_escapeUnless_eq_cons {cs : List Char} {h : Char} {more : List Char}
    (hcs : escapeUnless safe cs = h :: more) (hh : (hexValue? h).isSome = true) :
    ∃ rest, cs = h :: rest ∧ escapeUnless safe rest = more := by
  cases cs with
  | nil => cases hcs
  | cons c rest =>
    cases hc : safe c with
    | true =>
      rw [escapeUnless_cons_of_safe hc] at hcs
      obtain ⟨rfl, rfl⟩ := List.cons.inj hcs
      exact ⟨rest, rfl, rfl⟩
    | false =>
      obtain ⟨tail, htail⟩ := exists_escapeChar_eq c
      rw [escapeUnless_cons_of_not_safe hc, htail] at hcs
      obtain ⟨rfl, _⟩ := List.cons.inj hcs
      exact absurd hh (by decide)

/-- No escape starts with a character after escaping if none did before. -/
theorem unescape_escapeUnless_cons {c : Char} {rest : List Char}
    (hnone : ∀ x y more, rest = x :: y :: more → escapedByte? c x y = none) :
    unescape (escapeUnless safe (c :: rest)) =
      charBytes c ++ unescape (escapeUnless safe rest) := by
  cases hc : safe c with
  | false =>
    rw [escapeUnless_cons_of_not_safe hc, escapeChar, unescape_escapeBytes_append]
  | true =>
    rw [escapeUnless_cons_of_safe hc]
    refine unescape_cons fun x y more heq => ?_
    rw [← Option.isNone_iff_eq_none, ← Option.isSome_eq_false_iff, ← Bool.not_eq_true]
    intro hsome
    obtain ⟨_, hx, hy⟩ := isSome_escapedByte?.mp hsome
    obtain ⟨rest', rfl, heq'⟩ := exists_of_escapeUnless_eq_cons heq hx
    obtain ⟨rest'', rfl, _⟩ := exists_of_escapeUnless_eq_cons heq' hy
    rw [hnone x y rest'' rfl] at hsome
    cases hsome

include hpercent hdigit in
/-- To escape characters does not change what a text stands for. -/
theorem unescape_escapeUnless (cs : List Char) :
    unescape (escapeUnless safe cs) = unescape cs := by
  induction cs using unescape.induct with
  | case1 c h l rest b hb ih =>
    have hsome : (escapedByte? c h l).isSome = true := by rw [hb, Option.isSome_some]
    obtain ⟨rfl, hh, hl⟩ := isSome_escapedByte?.mp hsome
    rw [escapeUnless_cons_of_safe hpercent, escapeUnless_cons_of_safe (hdigit h hh),
      escapeUnless_cons_of_safe (hdigit l hl), unescape, unescape, hb, ih]
  | case2 c h l rest hnone ih =>
    have hnone' (x y : Char) (more : List Char) (heq : h :: l :: rest = x :: y :: more) :
        escapedByte? c x y = none := by
      cases heq
      exact hnone
    rw [unescape_escapeUnless_cons hnone', unescape_cons hnone', ih]
  | case3 c rest hshort ih =>
    have hnone (x y : Char) (more : List Char) (heq : rest = x :: y :: more) :
        escapedByte? c x y = none := (hshort x y more heq).elim
    rw [unescape_escapeUnless_cons hnone, unescape_cons hnone, ih]
  | case4 => rfl

end EscapeUnless

theorem mem_escapeChar {c x : Char} (h : x ∈ escapeChar c) :
    x = '%' ∨ ∃ n < 16, x = hexDigit n := by
  obtain ⟨b, _, hx⟩ := List.mem_flatMap.mp h
  have hb : b.toNat < 256 := b.toNat_lt
  simp only [escapeByte, List.mem_cons, List.not_mem_nil, or_false] at hx
  rcases hx with rfl | rfl | rfl
  · exact Or.inl rfl
  · exact Or.inr ⟨_, by omega, rfl⟩
  · exact Or.inr ⟨_, by omega, rfl⟩

/-- Whether a character is no part of any escape. -/
def isOutsideEscapes (c : Char) : Bool :=
  c != '%' && (List.range 16).all fun n => c != hexDigit n

theorem not_mem_escapeChar {x : Char} (hx : isOutsideEscapes x = true) (c : Char) :
    x ∉ escapeChar c := by
  intro hmem
  rw [isOutsideEscapes, Bool.and_eq_true, List.all_eq_true] at hx
  rcases mem_escapeChar hmem with rfl | ⟨n, hn, rfl⟩
  · exact absurd hx.1 (by decide)
  · exact absurd (hx.2 n (List.mem_range.mpr hn)) (by simp)

theorem not_mem_escapeUnless {safe : Char → Bool} {x : Char} (hx : isOutsideEscapes x = true)
    {cs : List Char} (hcs : safe x = false ∨ x ∉ cs) : x ∉ escapeUnless safe cs := by
  intro hmem
  obtain ⟨c, hc, hmem⟩ := List.mem_flatMap.mp hmem
  split at hmem
  · next hsafe =>
    obtain rfl := List.mem_singleton.mp hmem
    rcases hcs with heq | hnot
    · rw [heq] at hsafe
      cases hsafe
    · exact hnot hc
  · exact not_mem_escapeChar hx c hmem

/-! ## Forms -/

def plusAsBlank (c : Char) : Char := if c = '+' then ' ' else c

/-- The bytes for which a name or a value of a form stands. -/
def unform (cs : List Char) : List UInt8 := unescape (cs.map plusAsBlank)

/-- The pairs of a form. -/
def formDecode (cs : List Char) : List (List UInt8 × List UInt8) :=
  ((cs.splitOn '&').filter (!·.isEmpty)).map fun pair =>
    (unform (pair.takeWhile (· != '=')), unform ((pair.dropWhile (· != '=')).drop 1))

theorem map_plusAsBlank_escapeChar (c : Char) :
    (escapeChar c).map plusAsBlank = escapeChar c := by
  refine (List.map_congr_left fun x hx => ?_).trans (List.map_id _)
  have hplus : x ≠ '+' := fun heq => not_mem_escapeChar (by decide) c (heq ▸ hx)
  exact if_neg hplus

theorem unform_formText (s : String) : unform (formText s) = textBytes s.toList := by
  unfold formText
  induction s.toList with
  | nil => rfl
  | cons c rest ih =>
    rw [List.flatMap_cons, textBytes_cons, ← ih, unform, unform, List.map_append]
    split
    · next hform =>
      have hplus : c ≠ '+' := fun heq => absurd hform (by rw [heq]; decide)
      have hpercent : c ≠ '%' := fun heq => absurd hform (by rw [heq]; decide)
      rw [List.map_singleton, List.singleton_append, plusAsBlank, if_neg hplus,
        unescape_cons_of_ne hpercent]
    · split
      · next hblank =>
        rw [hblank]
        exact unescape_cons_of_ne (by decide) _
      · rw [map_plusAsBlank_escapeChar, escapeChar, unescape_escapeBytes_append]

theorem not_mem_formText {x : Char} (hx : isOutsideEscapes x = true) (hform : isFormChar x = false)
    (hplus : x ≠ '+') (s : String) : x ∉ formText s := by
  intro hmem
  obtain ⟨c, _, hmem⟩ := List.mem_flatMap.mp hmem
  split at hmem
  · next hc =>
    obtain rfl := List.mem_singleton.mp hmem
    rw [hform] at hc
    cases hc
  · split at hmem
    · exact hplus (List.mem_singleton.mp hmem)
    · exact not_mem_escapeChar hx c hmem

theorem takeWhile_formText_append (name : String) (value : List Char) :
    (formText name ++ '=' :: value).takeWhile (· != '=') = formText name ∧
      ((formText name ++ '=' :: value).dropWhile (· != '=')).drop 1 = value := by
  have hname (x : Char) (hx : x ∈ formText name) : (x != '=') = true := by
    rw [bne_iff_ne]
    exact fun heq => not_mem_formText (by decide) (by decide) (by decide) name (heq ▸ hx)
  rw [List.takeWhile_append_of_pos hname, List.dropWhile_append_of_pos hname]
  simp

/-- A form carries the pairs that were written into it. -/
theorem formDecode_formPairs (pairs : List (String × String)) (h : pairs ≠ []) :
    formDecode (formPairs pairs) =
      pairs.map fun p => (textBytes p.1.toList, textBytes p.2.toList) := by
  have hsplit : (formPairs pairs).splitOn '&' =
      pairs.map fun p => formText p.1 ++ '=' :: formText p.2 := by
    refine List.splitOn_intercalate '&' (fun text htext => ?_) (by simpa using h)
    obtain ⟨p, _, rfl⟩ := List.mem_map.mp htext
    have hnot (s : String) : '&' ∉ formText s :=
      not_mem_formText (by decide) (by decide) (by decide) s
    simp [hnot]
  have hfull (text : List Char)
      (htext : text ∈ pairs.map fun p => formText p.1 ++ '=' :: formText p.2) :
      (!text.isEmpty) = true := by
    obtain ⟨p, _, rfl⟩ := List.mem_map.mp htext
    simp
  rw [formDecode, hsplit, List.filter_eq_self.mpr hfull, List.map_map]
  refine List.map_congr_left fun p _ => ?_
  obtain ⟨hname, hvalue⟩ := takeWhile_formText_append p.1 (formText p.2)
  rw [Function.comp_apply, hname, hvalue, unform_formText, unform_formText]

end Roster.Consul
