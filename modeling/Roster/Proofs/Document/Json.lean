import Roster.Document.Json

/-!
# Every plain node has a JSON text

`write` spells a node in JSON without blanks. What is written is read back (`read?_write`): the
reader finds the end of each value by itself, because nothing that may follow a value goes on a
number (`Ends`).
-/

namespace Roster.Document.Json

/-! ## Texts -/

def writeChar (c : Char) : List Char :=
  if c = '"' ∨ c = '\\' then ['\\', c]
  else if c.toNat < 0x20 then
    ['\\', 'u', '0', '0', Nat.digitChar (c.toNat / 16), Nat.digitChar (c.toNat % 16)]
  else [c]

def writeText (s : String) : List Char := '"' :: (s.toList.flatMap writeChar ++ ['"'])

theorem hexValue?_digitChar {n : Nat} (h : n < 16) : hexValue? (Nat.digitChar n) = some n := by
  have hall : ∀ n < 16, hexValue? (Nat.digitChar n) = some n := by decide
  exact hall n h

theorem hexFour?_digitChar {n : Nat} (h : n < 0x20) :
    hexFour? '0' '0' (Nat.digitChar (n / 16)) (Nat.digitChar (n % 16)) = some n := by
  have hzero : hexValue? '0' = some 0 := rfl
  rw [hexFour?, hzero, hexValue?_digitChar (by omega), hexValue?_digitChar (by omega)]
  exact congrArg some (by omega)

theorem pieces?_writeChar (c : Char) (rest : List Char) :
    pieces? (writeChar c ++ rest) = (pieces? rest).map fun p => (.char c :: p.1, p.2) := by
  unfold writeChar
  split
  · next hmarked =>
    rcases hmarked with rfl | rfl
    · show pieces? ('\\' :: '"' :: rest) = _
      rw [pieces?]
      · cases pieces? rest <;> rfl
      · exact fun _ _ _ _ _ heq => absurd heq (by decide)
    · show pieces? ('\\' :: '\\' :: rest) = _
      rw [pieces?]
      · cases pieces? rest <;> rfl
      · exact fun _ _ _ _ _ heq => absurd heq (by decide)
  · next hplain =>
    obtain ⟨hquote, hbackslash⟩ := not_or.mp hplain
    split
    · next hlow =>
      have hhalf : (isHighHalf c.toNat || isLowHalf c.toNat) = false := by
        rw [Bool.or_eq_false_iff, isHighHalf, isLowHalf, Bool.and_eq_false_iff,
          Bool.and_eq_false_iff]
        exact ⟨Or.inl (decide_eq_false (by omega)), Or.inl (decide_eq_false (by omega))⟩
      simp only [List.cons_append, List.nil_append]
      rw [pieces?, hexFour?_digitChar hlow]
      simp only [bind, Option.bind_some, hhalf, Bool.false_eq_true, if_false, Char.ofNat_toNat]
      cases pieces? rest <;> rfl
    · next hhigh =>
      rw [List.singleton_append, pieces?, if_neg hhigh]
      · cases pieces? rest <;> rfl
      · exact hquote
      all_goals
        intros
        exact absurd ‹c = '\\'› hbackslash

theorem pieces?_flatMap_writeChar (cs rest : List Char) :
    pieces? (cs.flatMap writeChar ++ '"' :: rest) = some (cs.map .char, rest) := by
  induction cs with
  | nil => rfl
  | cons c cs ih => rw [List.flatMap_cons, List.append_assoc, pieces?_writeChar, ih]; rfl

theorem join?_map_char (cs : List Char) : join? (cs.map .char) = some cs := by
  induction cs with
  | nil => rfl
  | cons c cs ih => rw [List.map_cons, join?, ih]; rfl

theorem text?_writeText (s : String) (rest : List Char) :
    text? (s.toList.flatMap writeChar ++ '"' :: rest) = some (some s, rest) := by
  rw [text?, pieces?_flatMap_writeChar]
  show some ((join? (s.toList.map .char)).map String.ofList, rest) = _
  rw [join?_map_char, Option.map_some, String.ofList_toList]

/-! ## Numbers -/

/-- Nothing that goes on a number stands at the front. -/
def Ends (rest : List Char) : Prop := ∀ c, rest.head? = some c → c = ',' ∨ c = ']' ∨ c = '\x7d'

theorem head?_toDigits_ne_zero {n : Nat} (h : 0 < n) : (Nat.toDigits 10 n).head? ≠ some '0' := by
  induction n using Nat.strongRecOn with
  | ind n ih =>
    by_cases hn : n < 10
    · rw [Nat.toDigits_of_lt_base hn]
      intro heq
      have hchar : Nat.digitChar n = '0' := Option.some.inj heq
      have := Nat.toNat_digitChar_of_lt_ten hn
      rw [hchar] at this
      have : ('0' : Char).toNat = 48 := rfl
      omega
    · obtain ⟨d, ds, hds⟩ :=
        List.exists_cons_of_ne_nil (Nat.toDigits_ne_nil (n := n / 10) (b := 10))
      have hhead := ih (n / 10) (by omega) (by omega)
      rw [hds] at hhead
      rw [Nat.toDigits_of_base_le (by decide) (Nat.le_of_not_lt hn), hds]
      exact hhead

theorem ofDigits_toDigits (n : Nat) : ofDigits (Nat.toDigits 10 n) = n := by
  have hfold := Nat.ofDigitChars_toDigits (b := 10) (n := n) (by decide) (by decide)
  rw [Nat.ofDigitChars] at hfold
  rw [ofDigits]
  simpa only [Nat.mul_comm, show '0'.toNat = 48 from rfl] using hfold

theorem number?_toDigits (n : Nat) {rest : List Char} (h : Ends rest) :
    number? false (Nat.toDigits 10 n ++ rest) = some (.integer n, rest) := by
  have hdigits (c : Char) (hc : c ∈ Nat.toDigits 10 n) : c.isDigit = true :=
    Nat.isDigit_of_mem_toDigits (by decide) (by decide) hc
  have hrest : rest.takeWhile Char.isDigit = [] ∧ rest.dropWhile Char.isDigit = rest := by
    cases rest with
    | nil => exact ⟨rfl, rfl⟩
    | cons c rest =>
      have hc : c.isDigit = false := by
        rcases h c rfl with rfl | rfl | rfl <;> rfl
      rw [List.takeWhile_cons, List.dropWhile_cons, hc]
      exact ⟨rfl, rfl⟩
  have hread : digits? (Nat.toDigits 10 n ++ rest) = some (Nat.toDigits 10 n, rest) := by
    rw [digits?, List.takeWhile_append_of_pos hdigits, List.dropWhile_append_of_pos hdigits,
      hrest.1, hrest.2, List.append_nil]
    exact if_neg (by rw [List.isEmpty_iff]; exact Nat.toDigits_ne_nil)
  have hwhole : whole? (Nat.toDigits 10 n ++ rest) = some (Nat.toDigits 10 n, rest) := by
    rw [whole?, hread]
    refine if_neg fun hzero => ?_
    rcases Nat.eq_zero_or_pos n with rfl | hpos
    · exact hzero.2 rfl
    · exact head?_toDigits_ne_zero hpos hzero.1
  have hfraction : fraction? rest = some (false, rest) := by
    cases rest with
    | nil => rfl
    | cons c rest => rcases h c rfl with rfl | rfl | rfl <;> rfl
  have hexponent : exponent? rest = some (false, rest) := by
    cases rest with
    | nil => rfl
    | cons c rest => rcases h c rfl with rfl | rfl | rfl <;> rfl
  rw [number?, hwhole]
  simp only [bind, Option.bind_some, hfraction, hexponent, ofDigits_toDigits]
  rfl

/-! ## Nodes -/

mutual

/-- A node in JSON without blanks, if it is plain. -/
def write : Node → List Char
  | .null => ['n', 'u', 'l', 'l']
  | .bool true => ['t', 'r', 'u', 'e']
  | .bool false => ['f', 'a', 'l', 's', 'e']
  | .integer n => Nat.toDigits 10 n.toNat
  | .text s => writeText (s.getD "")
  | .list [] => ['[', ']']
  | .list (item :: items) => '[' :: (write item ++ writeItems items)
  | .record [] => ['\x7b', '\x7d']
  | .record ((name, node) :: fields) =>
    '\x7b' :: (writeText (name.getD "") ++ ':' :: (write node ++ writeFields fields))
  | .decimal => []
  | .moment => []

def writeItems : List Node → List Char
  | [] => [']']
  | item :: items => ',' :: (write item ++ writeItems items)

def writeFields : List (Option String × Node) → List Char
  | [] => ['\x7d']
  | (name, node) :: fields =>
    ',' :: (writeText (name.getD "") ++ ':' :: (write node ++ writeFields fields))

end

mutual

/-- Whether a node is made of what JSON spells without fractions and minus signs. -/
def isPlain : Node → Bool
  | .null => true
  | .bool _ => true
  | .integer n => 0 ≤ n
  | .text s => s.isSome
  | .list items => arePlain items
  | .record fields => fieldsArePlain fields
  | .decimal => false
  | .moment => false

def arePlain : List Node → Bool
  | [] => true
  | item :: items => isPlain item && arePlain items

def fieldsArePlain : List (Option String × Node) → Bool
  | [] => true
  | (name, node) :: fields => name.isSome && (isPlain node && fieldsArePlain fields)

end

/-! ## Reading what was written -/

theorem skipSpace_cons {c : Char} (h : isSpace c = false) (rest : List Char) :
    skipSpace (c :: rest) = c :: rest := by
  rw [skipSpace, List.dropWhile_cons, h]
  rfl

theorem ne_of_isDigit {c d : Char} (h : c.isDigit = true) (hd : d.isDigit = false) : c ≠ d := by
  rintro rfl
  rw [hd] at h
  cases h

theorem isSpace_of_isDigit {c : Char} (h : c.isDigit = true) : isSpace c = false := by
  have hne {d : Char} (hd : d.isDigit = false) : c ≠ d := ne_of_isDigit h hd
  simp [isSpace, hne (d := ' ') rfl, hne (d := '\n') rfl, hne (d := '\t') rfl,
    hne (d := '\r') rfl]

theorem value?_of_isDigit {c : Char} (h : c.isDigit = true) (fuel : Nat) (rest : List Char) :
    value? (fuel + 1) (c :: rest) = number? false (c :: rest) := by
  have hne {d : Char} (hd : d.isDigit = false) : c ≠ d := ne_of_isDigit h hd
  rw [value?, skipSpace_cons (isSpace_of_isDigit h)]
  split
  case h_8 => rfl
  all_goals
    next heq => exact absurd (List.cons.inj heq).1 (hne (by decide))

/-- A value is read back whatever follows it, if enough fuel is left for its characters. -/
def Reads (node : Node) : Prop :=
  ∀ fuel rest, 2 * (write node).length ≤ fuel → Ends rest →
    value? fuel (write node ++ rest) = some (node, rest)

/-- Items are read back after an item that is. -/
def ReadsItems (items : List Node) : Prop :=
  ∀ item, Reads item → ∀ fuel rest,
    2 * ((write item).length + (writeItems items).length) + 1 ≤ fuel →
    items? fuel (write item ++ (writeItems items ++ rest)) = some (item :: items, rest)

/-- Fields are read back after a field whose value is. -/
def ReadsFields (fields : List (Option String × Node)) : Prop :=
  ∀ (name : String) (node : Node), Reads node → ∀ fuel rest,
    2 * ((writeText name).length + (write node).length + (writeFields fields).length) + 1 ≤ fuel →
    fields? fuel (writeText name ++ ':' :: (write node ++ (writeFields fields ++ rest))) =
      some ((some name, node) :: fields, rest)

theorem ends_cons {c : Char} (h : c = ',' ∨ c = ']' ∨ c = '\x7d') (rest : List Char) :
    Ends (c :: rest) := fun _ hc => Option.some.inj hc ▸ h

theorem ends_writeItems (items : List Node) (rest : List Char) :
    Ends (writeItems items ++ rest) := by
  cases items with
  | nil => exact ends_cons (Or.inr (Or.inl rfl)) _
  | cons item items => exact ends_cons (Or.inl rfl) _

theorem ends_writeFields (fields : List (Option String × Node)) (rest : List Char) :
    Ends (writeFields fields ++ rest) := by
  cases fields with
  | nil => exact ends_cons (Or.inr (Or.inr rfl)) _
  | cons field fields => exact ends_cons (Or.inl rfl) _

theorem reads_integer {n : Int} (h : 0 ≤ n) : Reads (.integer n) := by
  intro fuel rest hfuel hends
  obtain ⟨n, rfl⟩ := Int.eq_ofNat_of_zero_le h
  obtain ⟨d, ds, hds⟩ := List.exists_cons_of_ne_nil (Nat.toDigits_ne_nil (n := n) (b := 10))
  have hdigit : d.isDigit = true :=
    Nat.isDigit_of_mem_toDigits (by decide) (by decide) (hds ▸ List.mem_cons_self)
  cases fuel with
  | zero =>
    rw [write, Int.toNat_natCast, hds] at hfuel
    exact absurd hfuel (by simp)
  | succ fuel =>
    have hnumber := number?_toDigits n hends
    rw [hds, List.cons_append] at hnumber
    rw [write, Int.toNat_natCast, hds, List.cons_append, value?_of_isDigit hdigit]
    exact hnumber

theorem reads_text (s : String) : Reads (.text (some s)) := by
  intro fuel rest hfuel _
  cases fuel with
  | zero => exact absurd hfuel (by simp [write, writeText])
  | succ fuel =>
    have htext := text?_writeText s rest
    rw [write, Option.getD_some, writeText, List.cons_append, List.append_assoc,
      List.singleton_append, value?, skipSpace_cons (by decide)]
    simp only [htext]
    rfl

theorem reads_nil : Reads (.list []) := by
  intro fuel rest hfuel _
  cases fuel with
  | zero => exact absurd hfuel (by simp [write])
  | succ fuel => rfl

theorem reads_empty : Reads (.record []) := by
  intro fuel rest hfuel _
  cases fuel with
  | zero => exact absurd hfuel (by simp [write])
  | succ fuel => rfl

/-- The first character of a plain node is neither a blank nor the end of a list. -/
theorem exists_write_eq_cons {node : Node} (h : isPlain node = true) :
    ∃ c tail, write node = c :: tail ∧ isSpace c = false ∧ c ≠ ']' := by
  match node, h with
  | .null, _ => exact ⟨_, _, rfl, by decide, by decide⟩
  | .bool b, _ => cases b <;> exact ⟨_, _, rfl, by decide, by decide⟩
  | .integer n, _ =>
    obtain ⟨d, ds, hds⟩ :=
      List.exists_cons_of_ne_nil (Nat.toDigits_ne_nil (n := n.toNat) (b := 10))
    have hdigit : d.isDigit = true :=
      Nat.isDigit_of_mem_toDigits (by decide) (by decide) (hds ▸ List.mem_cons_self)
    exact ⟨d, ds, hds, isSpace_of_isDigit hdigit, fun heq => absurd hdigit (by rw [heq]; decide)⟩
  | .text s, _ => exact ⟨_, _, rfl, by decide, by decide⟩
  | .list [], _ => exact ⟨_, _, rfl, by decide, by decide⟩
  | .list (item :: items), _ => exact ⟨_, _, rfl, by decide, by decide⟩
  | .record [], _ => exact ⟨_, _, rfl, by decide, by decide⟩
  | .record ((name, node) :: fields), _ => exact ⟨_, _, rfl, by decide, by decide⟩

theorem reads_list {item : Node} {items : List Node} (hplain : isPlain item = true)
    (hitem : Reads item) (hitems : ReadsItems items) : Reads (.list (item :: items)) := by
  intro fuel rest hfuel _
  obtain ⟨c, tail, hc, hspace, hend⟩ := exists_write_eq_cons hplain
  cases fuel with
  | zero => exact absurd hfuel (by simp [write])
  | succ fuel =>
    rw [write, List.length_cons, List.length_append] at hfuel
    have hread := hitems item hitem fuel rest (by omega)
    rw [write, List.cons_append, List.append_assoc, value?, skipSpace_cons (by decide)]
    rw [hc, List.cons_append] at hread ⊢
    simp only [skipSpace_cons hspace]
    split
    · next heq => exact absurd (List.cons.inj heq).1 hend
    · rw [hread]
      rfl

theorem readsItems_nil : ReadsItems [] := by
  intro item hitem fuel rest hfuel
  cases fuel with
  | zero => exact absurd hfuel (by simp)
  | succ fuel =>
    rw [items?, hitem fuel _ (by omega) (ends_writeItems [] rest)]
    rfl

theorem readsItems_cons {next : Node} {items : List Node} (hnext : Reads next)
    (hitems : ReadsItems items) : ReadsItems (next :: items) := by
  intro item hitem fuel rest hfuel
  cases fuel with
  | zero => exact absurd hfuel (by simp)
  | succ fuel =>
    have hrest := hitems next hnext fuel rest
      (by rw [writeItems, List.length_cons, List.length_append] at hfuel; omega)
    rw [items?, hitem fuel _ (by omega) (ends_writeItems (next :: items) rest)]
    simp only [bind, Option.bind_some, writeItems, List.cons_append, List.append_assoc]
    rw [skipSpace_cons (by decide)]
    simp only [hrest]
    rfl

/-- A field is read, and then what follows its value decides. -/
theorem fields?_writeText (name : String) {node : Node} (h : Reads node) {fuel : Nat}
    (hfuel : 2 * (write node).length ≤ fuel) {after : List Char} (hafter : Ends after) :
    fields? (fuel + 1) (writeText name ++ ':' :: (write node ++ after)) =
      match skipSpace after with
      | ',' :: rest => (fields? fuel rest).map fun p => ((some name, node) :: p.1, p.2)
      | '\x7d' :: rest => some ([(some name, node)], rest)
      | _ => none := by
  have htext := text?_writeText name (':' :: (write node ++ after))
  rw [writeText, List.cons_append, List.append_assoc, List.singleton_append, fields?,
    skipSpace_cons (by decide)]
  simp only [htext, bind, Option.bind_some, skipSpace_cons (show isSpace ':' = false by decide),
    h fuel after hfuel hafter]
  generalize skipSpace after = next
  cases next with
  | nil => rfl
  | cons c rest =>
    by_cases hcomma : c = ','
    · subst hcomma
      show ((fields? fuel rest).bind fun p => some ((some name, node) :: p.1, p.2)) =
        (fields? fuel rest).map fun p => ((some name, node) :: p.1, p.2)
      cases fields? fuel rest <;> rfl
    · by_cases hbrace : c = '\x7d'
      · subst hbrace
        rfl
      · simp [hcomma, hbrace]

theorem reads_record {name : String} {node : Node} {fields : List (Option String × Node)}
    (hnode : Reads node) (hfields : ReadsFields fields) :
    Reads (.record ((some name, node) :: fields)) := by
  intro fuel rest hfuel _
  cases fuel with
  | zero => exact absurd hfuel (by simp [write])
  | succ fuel =>
    simp only [write, Option.getD_some, List.length_cons, List.length_append] at hfuel
    have hread := hfields name node hnode fuel rest (by omega)
    simp only [write, Option.getD_some, List.cons_append, List.append_assoc]
    rw [writeText, List.cons_append] at hread ⊢
    rw [value?, skipSpace_cons (by decide)]
    simp only [skipSpace_cons (show isSpace '"' = false by decide)]
    split
    · next heq => exact absurd (List.cons.inj heq).1 (by decide)
    · rw [hread]
      rfl

theorem readsFields_nil : ReadsFields [] := by
  intro name node hnode fuel rest hfuel
  cases fuel with
  | zero => exact absurd hfuel (by simp)
  | succ fuel =>
    rw [fields?_writeText name hnode (by omega) (ends_writeFields [] rest)]
    rfl

theorem readsFields_cons {name : String} {next : Node} {fields : List (Option String × Node)}
    (hnext : Reads next) (hfields : ReadsFields fields) :
    ReadsFields ((some name, next) :: fields) := by
  intro first node hnode fuel rest hfuel
  cases fuel with
  | zero => exact absurd hfuel (by simp)
  | succ fuel =>
    rw [fields?_writeText first hnode (by omega) (ends_writeFields _ rest)]
    simp only [writeFields, Option.getD_some, List.length_cons, List.length_append] at hfuel
    have hrest := hfields name next hnext fuel rest (by omega)
    simp only [writeFields, Option.getD_some, List.cons_append, List.append_assoc,
      skipSpace_cons (show isSpace ',' = false by decide), hrest]
    rfl

mutual

theorem reads_of_isPlain : ∀ node : Node, isPlain node = true → Reads node
  | .null, _ => by
    intro fuel rest hfuel _
    cases fuel with
    | zero => exact absurd hfuel (by simp [write])
    | succ fuel => rfl
  | .bool b, _ => by
    intro fuel rest hfuel _
    cases fuel with
    | zero => cases b <;> exact absurd hfuel (by simp [write])
    | succ fuel => cases b <;> rfl
  | .integer n, h => reads_integer (of_decide_eq_true h)
  | .text (some s), _ => reads_text s
  | .list [], _ => reads_nil
  | .list (item :: items), h => by
    rw [isPlain, arePlain, Bool.and_eq_true] at h
    exact reads_list h.1 (reads_of_isPlain item h.1) (readsItems_of_arePlain items h.2)
  | .record [], _ => reads_empty
  | .record ((some name, node) :: fields), h => by
    rw [isPlain, fieldsArePlain, Bool.and_eq_true, Bool.and_eq_true] at h
    exact reads_record (reads_of_isPlain node h.2.1) (readsFields_of_fieldsArePlain fields h.2.2)

theorem readsItems_of_arePlain : ∀ items : List Node, arePlain items = true → ReadsItems items
  | [], _ => readsItems_nil
  | next :: items, h => by
    rw [arePlain, Bool.and_eq_true] at h
    exact readsItems_cons (reads_of_isPlain next h.1) (readsItems_of_arePlain items h.2)

theorem readsFields_of_fieldsArePlain : ∀ fields : List (Option String × Node),
    fieldsArePlain fields = true → ReadsFields fields
  | [], _ => readsFields_nil
  | (some name, next) :: fields, h => by
    rw [fieldsArePlain, Bool.and_eq_true, Bool.and_eq_true] at h
    exact readsFields_cons (reads_of_isPlain next h.2.1)
      (readsFields_of_fieldsArePlain fields h.2.2)

end

/-- What is written is read back. -/
theorem read?_write {node : Node} (h : isPlain node = true) :
    read? (String.ofList (write node)) = some node := by
  have hread := reads_of_isPlain node h (2 * (write node).length + 1) [] (by omega) nofun
  rw [List.append_nil] at hread
  rw [read?, String.toList_ofList]
  simp only [hread]
  rfl

/-! ## Plain nodes -/

theorem arePlain_iff {items : List Node} :
    arePlain items = true ↔ ∀ item ∈ items, isPlain item = true := by
  induction items with
  | nil => exact ⟨fun _ => nofun, fun _ => rfl⟩
  | cons item items ih => rw [arePlain, Bool.and_eq_true, ih, List.forall_mem_cons]

theorem isPlain_ofFields {fields : List (String × Node)}
    (h : ∀ f ∈ fields, isPlain f.2 = true) : isPlain (Node.ofFields fields) = true := by
  rw [Node.ofFields, isPlain]
  induction fields with
  | nil => rfl
  | cons f fields ih =>
    rw [List.forall_mem_cons] at h
    rw [List.map_cons, fieldsArePlain, h.1, ih h.2]
    rfl

theorem isPlain_ofText? (o : Option String) : isPlain (Node.ofText? o) = true := by
  cases o <;> rfl

end Roster.Document.Json
