import TableAtlas.Json.Reader
import TableAtlas.Json.Writer
import TableAtlas.Proofs.Boundary

/-!
# Reading back what was written as JSON

Reading undoes writing for every way of writing characters that reads back character by
character, whatever stands behind the value. Both ways that are in use do: the one for streams,
and the one for script elements, which writes a character beyond the 16-bit range as a pair of
surrogates.
-/

namespace TableAtlas.Json

open Text

/-! ## Numbers -/

/-- Whether a text does not go on with a number. -/
def EndsNumber (rest : List Char) : Prop := ∀ c ∈ rest.head?, c.isDigit = false

theorem endsNumber_cons {c : Char} (h : c.isDigit = false) (s : List Char) : EndsNumber (c :: s) :=
  forall_mem_head?_cons h

theorem isDigit_of_mem_decimal {n : Nat} : ∀ c ∈ decimal n, c.isDigit = true := by
  intro c hc
  exact Nat.isDigit_of_mem_toDigits (by decide) (by decide) hc

theorem natural?_decimal (n : Nat) {rest : List Char} (hrest : EndsNumber rest) :
    natural? (decimal n ++ rest) = some (n, rest) := by
  have hvalue : Nat.ofDigitChars 10 (decimal n) 0 = n :=
    Nat.ofDigitChars_toDigits (by decide) (by decide)
  simp only [natural?, takeWhile_run isDigit_of_mem_decimal hrest,
    dropWhile_run isDigit_of_mem_decimal hrest, hvalue, ↓reduceIte]

theorem whole?_of_isDigit {c : Char} (hc : c.isDigit = true) (s : List Char) :
    whole? (c :: s) = (natural? (c :: s)).map fun r => ((r.1 : Int), r.2) := by
  rw [whole?.eq_def]
  split
  case h_1 heq =>
    obtain ⟨rfl, -⟩ := List.cons.inj heq
    cases hc
  case h_2 => rfl

/-- A number begins with a digit or a minus. -/
theorem exists_cons_signedDecimal (n : Int) :
    ∃ c s, signedDecimal n = c :: s ∧ (c = '-' ∨ c.isDigit = true) := by
  unfold signedDecimal
  split
  · exact ⟨_, _, rfl, .inl rfl⟩
  · obtain ⟨c, s, hs⟩ := List.exists_cons_of_ne_nil (Nat.toDigits_ne_nil (n := n.natAbs) (b := 10))
    have hc : c ∈ decimal n.natAbs := by rw [decimal, hs]; simp
    exact ⟨c, s, hs, .inr (isDigit_of_mem_decimal c hc)⟩

theorem whole?_signedDecimal (n : Int) {rest : List Char} (hrest : EndsNumber rest) :
    whole? (signedDecimal n ++ rest) = some (n, rest) := by
  unfold signedDecimal
  split
  case isTrue hneg =>
    have habs : -((n.natAbs : Nat) : Int) = n := by omega
    rw [List.cons_append, whole?, natural?_decimal n.natAbs hrest, Option.map_some, habs]
  case isFalse hpos =>
    have habs : ((n.natAbs : Nat) : Int) = n := by omega
    obtain ⟨c, s, hs⟩ := List.exists_cons_of_ne_nil (Nat.toDigits_ne_nil (n := n.natAbs) (b := 10))
    have hc : c.isDigit = true :=
      isDigit_of_mem_decimal (n := n.natAbs) c (by rw [decimal, hs]; simp)
    have hread := natural?_decimal n.natAbs hrest
    rw [decimal, hs] at hread ⊢
    rw [List.cons_append] at hread ⊢
    rw [whole?_of_isDigit hc, hread, Option.map_some, habs]

theorem readValue?_of_number {c : Char} (h : c = '-' ∨ c.isDigit = true) (s : List Char) :
    readValue? (c :: s) = (whole? (c :: s)).map fun r => (number r.1, r.2) := by
  rw [readValue?.eq_def]
  split
  case h_7 => rfl
  all_goals
    rename_i heq
    obtain ⟨rfl, -⟩ := List.cons.inj heq
    exact absurd h (by decide)

/-! ## Strings -/

/-- Whether what is written for a character reads back as the character, whatever follows. -/
def ReadsBack (escape : Char → List Char) : Prop :=
  ∀ c, ∃ ns, (∀ s, codes? (escape c ++ s) = (codes? s).map fun r => (ns ++ r.1, r.2)) ∧
    ∀ ms, chars? (ns ++ ms) = (chars? ms).map (c :: ·)

theorem codes?_plain {c : Char} (hquote : c ≠ '"') (hslash : c ≠ '\\') (hcontrol : 0x20 ≤ c.toNat)
    (s : List Char) : codes? (c :: s) = (codes? s).map fun r => (c.toNat :: r.1, r.2) := by
  have hlow : ¬ c.toNat < 0x20 := by omega
  rw [codes?.eq_def]
  split
  case h_1 heq => cases heq
  case h_2 heq => exact absurd (List.cons.inj heq).1 hquote
  case h_3 heq => exact absurd (List.cons.inj heq).1 hslash
  case h_4 heq => exact absurd (List.cons.inj heq).1 hslash
  case h_5 heq =>
    obtain ⟨rfl, rfl⟩ := List.cons.inj heq
    simp [hlow, hslash]

theorem codes?_unitEscape {n : Nat} (hn : n < 0x10000) (s : List Char) :
    codes? (unitEscape n ++ s) = (codes? s).map fun r => (n :: r.1, r.2) := by
  have hvalue : hexValue? (hex 4 n) = some n := by
    rw [hexValue?_hex]
    exact congrArg some (Nat.mod_eq_of_lt hn)
  obtain ⟨a, b, c, d, hdigits⟩ : ∃ a b c d, hex 4 n = [a, b, c, d] :=
    ⟨_, _, _, _, rfl⟩
  rw [hdigits] at hvalue
  simp [unitEscape, hdigits, codes?, hvalue]

theorem codes?_requiredEscape {c : Char} {e : List Char} (h : requiredEscape? c = some e)
    (s : List Char) : codes? (e ++ s) = (codes? s).map fun r => (c.toNat :: r.1, r.2) := by
  unfold requiredEscape? at h
  split at h
  case h_8 =>
    split at h
    case isTrue hcontrol =>
      obtain rfl := Option.some.inj h
      exact codes?_unitEscape (by omega) s
    case isFalse => cases h
  all_goals
    obtain rfl := Option.some.inj h
    simp [codes?, shortEscape?]

theorem plain_of_requiredEscape?_eq_none {c : Char} (h : requiredEscape? c = none) :
    c ≠ '"' ∧ c ≠ '\\' ∧ 0x20 ≤ c.toNat := by
  refine ⟨?_, ?_, ?_⟩
  · rintro rfl
    cases h
  · rintro rfl
    cases h
  · by_contra hcontrol
    have hlow : c.toNat < 0x20 := by omega
    unfold requiredEscape? at h
    split at h
    case h_8 =>
      rw [if_pos hlow] at h
      cases h
    all_goals cases h

theorem toNat_lt (c : Char) : c.toNat < 0x110000 := by
  have hvalid : c.toNat.isValidChar := c.valid
  simp only [Nat.isValidChar] at hvalid
  omega

theorem chars?_toNat (c : Char) (ms : List Nat) :
    chars? (c.toNat :: ms) = (chars? ms).map (c :: ·) := by
  have hvalid : c.toNat.isValidChar := c.valid
  have hhigh : isHighSurrogate c.toNat = false := by
    simp only [isHighSurrogate, Bool.and_eq_false_iff, decide_eq_false_iff_not]
    rcases hvalid with h | h <;> omega
  cases ms with
  | nil => simp [chars?, hvalid, Char.ofNat_toNat]
  | cons m ms => simp [chars?, hhigh, hvalid, Char.ofNat_toNat]

/-- Surrogates are the two halves of what a code exceeds the 16-bit range by. -/
theorem chars?_surrogates {c : Char} (hc : 0x10000 ≤ c.toNat) (ms : List Nat) :
    chars? ((0xd800 + (c.toNat - 0x10000) / 0x400) ::
      (0xdc00 + (c.toNat - 0x10000) % 0x400) :: ms) = (chars? ms).map (c :: ·) := by
  have hlt := toNat_lt c
  have hhigh : isHighSurrogate (0xd800 + (c.toNat - 0x10000) / 0x400) = true := by
    simp only [isHighSurrogate, Bool.and_eq_true, decide_eq_true_eq]
    omega
  have hlow : isLowSurrogate (0xdc00 + (c.toNat - 0x10000) % 0x400) = true := by
    simp only [isLowSurrogate, Bool.and_eq_true, decide_eq_true_eq]
    omega
  have hjoined : pairedChar (0xd800 + (c.toNat - 0x10000) / 0x400)
      (0xdc00 + (c.toNat - 0x10000) % 0x400) = c := by
    have hcode : 0x10000 + (0xd800 + (c.toNat - 0x10000) / 0x400 - 0xd800) * 0x400 +
        (0xdc00 + (c.toNat - 0x10000) % 0x400 - 0xdc00) = c.toNat := by
      omega
    rw [pairedChar, hcode, Char.ofNat_toNat]
  simp [chars?, hhigh, hlow, hjoined]

theorem readsBack_of_code {c : Char} {e : List Char}
    (h : ∀ s, codes? (e ++ s) = (codes? s).map fun r => (c.toNat :: r.1, r.2)) :
    ∃ ns, (∀ s, codes? (e ++ s) = (codes? s).map fun r => (ns ++ r.1, r.2)) ∧
      ∀ ms, chars? (ns ++ ms) = (chars? ms).map (c :: ·) :=
  ⟨[c.toNat], h, chars?_toNat c⟩

theorem readsBack_streamChar : ReadsBack streamChar := by
  intro c
  apply readsBack_of_code
  intro s
  unfold streamChar
  cases h : requiredEscape? c with
  | some e => exact codes?_requiredEscape h s
  | none =>
    obtain ⟨hquote, hslash, hcontrol⟩ := plain_of_requiredEscape?_eq_none h
    exact codes?_plain hquote hslash hcontrol s

theorem readsBack_scriptChar : ReadsBack scriptChar := by
  intro c
  cases h : requiredEscape? c with
  | some e =>
    apply readsBack_of_code
    intro s
    rw [scriptChar, h]
    exact codes?_requiredEscape h s
  | none =>
    obtain ⟨hquote, hslash, hcontrol⟩ := plain_of_requiredEscape?_eq_none h
    have hscript : scriptChar c = if c.toNat < 0x7f && !isMarkup c then [c] else codeEscape c := by
      rw [scriptChar, h, Option.getD_none]
    rw [hscript]
    split
    case isTrue => exact readsBack_of_code (e := [c]) (codes?_plain hquote hslash hcontrol)
    case isFalse =>
      unfold codeEscape
      split
      case isTrue hunit => exact readsBack_of_code (codes?_unitEscape hunit)
      case isFalse hbeyond =>
        have hlt := toNat_lt c
        refine ⟨[0xd800 + (c.toNat - 0x10000) / 0x400, 0xdc00 + (c.toNat - 0x10000) % 0x400], ?_,
          chars?_surrogates (by omega)⟩
        intro s
        rw [List.append_assoc, codes?_unitEscape (by omega), codes?_unitEscape (by omega),
          Option.map_map]
        rfl

section

variable {escape : Char → List Char}

/-- A string ends at its own closing quote. -/
theorem stringBody?_escape (hesc : ReadsBack escape) (s rest : List Char) :
    stringBody? (s.flatMap escape ++ '"' :: rest) = some (String.ofList s, rest) := by
  suffices h : ∃ ns, codes? (s.flatMap escape ++ '"' :: rest) = some (ns, rest) ∧
      chars? ns = some s by
    obtain ⟨ns, hcodes, hchars⟩ := h
    simp [stringBody?, hcodes, hchars]
  induction s with
  | nil => exact ⟨[], rfl, rfl⟩
  | cons c s ih =>
    obtain ⟨ms, hcodes, hchars⟩ := ih
    obtain ⟨ns, hread, hjoin⟩ := hesc c
    refine ⟨ns ++ ms, ?_, ?_⟩
    · rw [List.flatMap_cons, List.append_assoc, hread, hcodes]
      rfl
    · rw [hjoin, hchars]
      rfl

theorem stringBody?_writeString (hesc : ReadsBack escape) (s : String) (rest : List Char) :
    stringBody? (s.toList.flatMap escape ++ '"' :: rest) = some (s, rest) := by
  rw [stringBody?_escape hesc, String.ofList_toList]

/-! ## Values -/

theorem skipSpaces_cons {c : Char} (h : isWhitespace c = false) (s : List Char) :
    skipSpaces (c :: s) = c :: s := by
  simp [skipSpaces, h]

theorem skipSpaces_space (s : List Char) : skipSpaces (' ' :: s) = skipSpaces s := rfl

/-- What is written for a value begins with no space and with no closing bracket. -/
theorem exists_cons_write (escape : Char → List Char) (x : Json) :
    ∃ c s, write escape x = c :: s ∧ isWhitespace c = false ∧ c ≠ ']' := by
  cases x with
  | null => exact ⟨_, _, rfl, by decide, by decide⟩
  | bool b => cases b <;> exact ⟨_, _, rfl, by decide, by decide⟩
  | string s => exact ⟨_, _, rfl, by decide, by decide⟩
  | array xs => exact ⟨_, _, rfl, by decide, by decide⟩
  | object fields => exact ⟨_, _, rfl, by decide, by decide⟩
  | number n =>
    obtain ⟨c, s, hs, hc⟩ := exists_cons_signedDecimal n
    refine ⟨c, s, hs, ?_, ?_⟩
    · rcases hc with rfl | hc
      · decide
      · by_contra hspace
        simp only [isWhitespace, Bool.not_eq_false, Bool.or_eq_true, decide_eq_true_eq] at hspace
        rcases hspace with ((rfl | rfl) | rfl) | rfl <;> cases hc
    · rintro rfl
      exact absurd hc (by decide)

theorem skipSpaces_write (escape : Char → List Char) (x : Json) (rest : List Char) :
    skipSpaces (write escape x ++ rest) = write escape x ++ rest := by
  obtain ⟨c, s, hs, hspace, -⟩ := exists_cons_write escape x
  rw [hs, List.cons_append, skipSpaces_cons hspace]

theorem exists_cons_writeItems (escape : Char → List Char) {xs : List Json} (hne : xs ≠ []) :
    ∃ c s, writeItems escape xs = c :: s ∧ isWhitespace c = false ∧ c ≠ ']' := by
  obtain ⟨x, xs, rfl⟩ := List.exists_cons_of_ne_nil hne
  obtain ⟨c, s, hs, hspace, hbracket⟩ := exists_cons_write escape x
  cases xs with
  | nil => exact ⟨c, s, by rw [writeItems, hs], hspace, hbracket⟩
  | cons y ys => exact ⟨c, _, by rw [writeItems, hs, List.cons_append], hspace, hbracket⟩

theorem skipSpaces_writeItems (escape : Char → List Char) {xs : List Json} (hne : xs ≠ [])
    (rest : List Char) :
    skipSpaces (writeItems escape xs ++ rest) = writeItems escape xs ++ rest := by
  obtain ⟨c, s, hs, hspace, -⟩ := exists_cons_writeItems escape hne
  rw [hs, List.cons_append, skipSpaces_cons hspace]

theorem exists_cons_writeFields (escape : Char → List Char) {fields : List (String × Json)}
    (hne : fields ≠ []) : ∃ s, writeFields escape fields = '"' :: s := by
  obtain ⟨⟨name, x⟩, fields, rfl⟩ := List.exists_cons_of_ne_nil hne
  cases fields with
  | nil => exact ⟨_, by rw [writeFields, writeString, List.cons_append]⟩
  | cons g gs => exact ⟨_, by rw [writeFields, writeString, List.cons_append]⟩

theorem skipSpaces_writeFields (escape : Char → List Char) {fields : List (String × Json)}
    (hne : fields ≠ []) (rest : List Char) :
    skipSpaces (writeFields escape fields ++ rest) = writeFields escape fields ++ rest := by
  obtain ⟨s, hs⟩ := exists_cons_writeFields escape hne
  rw [hs, List.cons_append, skipSpaces_cons (by decide)]

/-- The text of an array is read by its items, unless it has none. -/
theorem readValue?_array {s : List Char} (h : ∀ rest, skipSpaces s ≠ ']' :: rest) :
    readValue? ('[' :: s) = (readItems? s).map fun r => (array r.1, r.2) := by
  rw [readValue?]
  split
  case h_1 rest heq => exact absurd heq (h rest)
  case h_2 => rfl

theorem readValue?_object {s : List Char} (h : ∀ rest, skipSpaces s ≠ '\x7d' :: rest) :
    readValue? ('\x7b' :: s) = (readFields? s).map fun r => (object r.1, r.2) := by
  rw [readValue?]
  split
  case h_1 rest heq => exact absurd heq (h rest)
  case h_2 => rfl

theorem fieldName?_of_skipSpaces (hesc : ReadsBack escape) {name : String} {s rest : List Char}
    (hs : skipSpaces s = writeString escape name ++ ':' :: rest) :
    fieldName? s = some (name, rest) := by
  have hquote : skipSpaces s = '"' :: (name.toList.flatMap escape ++ '"' :: ':' :: rest) := by
    simp [hs, writeString]
  have hcolon : skipSpaces (':' :: rest) = ':' :: rest := skipSpaces_cons (by decide) rest
  simp [fieldName?, hquote, stringBody?_writeString hesc, hcolon]

mutual

/-- Reading undoes writing, whatever stands behind the value. -/
theorem readValue?_write (hesc : ReadsBack escape) (x : Json) {rest : List Char}
    (hrest : EndsNumber rest) : readValue? (write escape x ++ rest) = some (x, rest) := by
  cases x with
  | null => simp [write, readValue?]
  | bool b => cases b <;> simp [write, readValue?]
  | number n =>
    obtain ⟨c, s, hs, hc⟩ := exists_cons_signedDecimal n
    have hread := whole?_signedDecimal n hrest
    rw [hs, List.cons_append] at hread
    rw [write, hs, List.cons_append, readValue?_of_number hc, hread, Option.map_some]
  | string s => simp [write, writeString, readValue?, stringBody?_writeString hesc]
  | array xs =>
    by_cases hne : xs = []
    · simp [hne, write, writeItems, readValue?, skipSpaces_cons (c := ']') (by decide)]
    · have hskip := skipSpaces_writeItems escape hne (']' :: rest)
      have hopen : ∀ t, skipSpaces (writeItems escape xs ++ ']' :: rest) ≠ ']' :: t := by
        obtain ⟨c, s, hs, -, hbracket⟩ := exists_cons_writeItems escape hne
        intro t
        rw [hskip, hs, List.cons_append]
        exact fun h => hbracket (List.cons.inj h).1
      rw [write, List.cons_append, List.append_assoc, List.singleton_append, readValue?_array hopen,
        readItems?_of_skipSpaces hesc xs hne hskip, Option.map_some]
  | object fields =>
    by_cases hne : fields = []
    · simp [hne, write, writeFields, readValue?, skipSpaces_cons (c := '\x7d') (by decide)]
    · have hskip := skipSpaces_writeFields escape hne ('\x7d' :: rest)
      have hopen : ∀ t, skipSpaces (writeFields escape fields ++ '\x7d' :: rest) ≠ '\x7d' :: t := by
        obtain ⟨s, hs⟩ := exists_cons_writeFields escape hne
        intro t
        rw [hskip, hs, List.cons_append]
        exact fun h => absurd (List.cons.inj h).1 (by decide)
      rw [write, List.cons_append, List.append_assoc, List.singleton_append,
        readValue?_object hopen, readFields?_of_skipSpaces hesc fields hne hskip, Option.map_some]

theorem readItems?_of_skipSpaces (hesc : ReadsBack escape) (xs : List Json) (hne : xs ≠ [])
    {s rest : List Char} (hs : skipSpaces s = writeItems escape xs ++ ']' :: rest) :
    readItems? s = some (xs, rest) := by
  match xs with
  | [x] =>
    have hx := readValue?_write hesc x (endsNumber_cons (c := ']') (by decide) rest)
    rw [readItems?, hs, writeItems, hx]
    simp [skipSpaces_cons (c := ']') (by decide)]
  | x :: y :: ys =>
    obtain ⟨tail, htail⟩ : ∃ tail, writeItems escape (y :: ys) ++ ']' :: rest = tail := ⟨_, rfl⟩
    have hpieces : skipSpaces s = write escape x ++ ',' :: ' ' :: tail := by
      simp [hs, ← htail, writeItems]
    have hshort : (' ' :: tail).length < s.length := by
      have hle := length_skipSpaces_le s
      rw [hpieces] at hle
      simp only [List.length_append, List.length_cons] at hle ⊢
      omega
    have hx := readValue?_write hesc x (endsNumber_cons (c := ',') (by decide) (' ' :: tail))
    have hmore : readItems? (' ' :: tail) = some (y :: ys, rest) :=
      readItems?_of_skipSpaces hesc (y :: ys) (by simp)
        (htail ▸ skipSpaces_writeItems escape (by simp) (']' :: rest))
    rw [readItems?, hpieces, hx]
    simp only [skipSpaces_cons (c := ',') (by decide), if_pos hshort, hmore, Option.map_some]

theorem readFields?_of_skipSpaces (hesc : ReadsBack escape) (fields : List (String × Json))
    (hne : fields ≠ []) {s rest : List Char}
    (hs : skipSpaces s = writeFields escape fields ++ '\x7d' :: rest) :
    readFields? s = some (fields, rest) := by
  match fields with
  | [(name, x)] =>
    have hpieces : skipSpaces s =
        writeString escape name ++ ':' :: ' ' :: (write escape x ++ '\x7d' :: rest) := by
      simp [hs, writeFields]
    have hshort : (' ' :: (write escape x ++ '\x7d' :: rest)).length < s.length := by
      have hle := length_skipSpaces_le s
      rw [hpieces] at hle
      simp only [List.length_append, List.length_cons] at hle ⊢
      omega
    have hx := readValue?_write hesc x (endsNumber_cons (c := '\x7d') (by decide) rest)
    rw [readFields?, fieldName?_of_skipSpaces hesc hpieces]
    simp only [if_pos hshort, skipSpaces_space, skipSpaces_write, hx]
    simp [skipSpaces_cons (c := '\x7d') (by decide)]
  | (name, x) :: field :: fields =>
    obtain ⟨tail, htail⟩ : ∃ tail, writeFields escape (field :: fields) ++ '\x7d' :: rest = tail :=
      ⟨_, rfl⟩
    have hpieces : skipSpaces s =
        writeString escape name ++ ':' :: ' ' :: (write escape x ++ ',' :: ' ' :: tail) := by
      simp [hs, ← htail, writeFields]
    have hle := length_skipSpaces_le s
    rw [hpieces] at hle
    have hshort : (' ' :: (write escape x ++ ',' :: ' ' :: tail)).length < s.length := by
      simp only [List.length_append, List.length_cons] at hle ⊢
      omega
    have hshorter : (' ' :: tail).length < s.length := by
      simp only [List.length_append, List.length_cons] at hle ⊢
      omega
    have hx := readValue?_write hesc x (endsNumber_cons (c := ',') (by decide) (' ' :: tail))
    have hmore : readFields? (' ' :: tail) = some (field :: fields, rest) :=
      readFields?_of_skipSpaces hesc (field :: fields) (by simp)
        (htail ▸ skipSpaces_writeFields escape (by simp) ('\x7d' :: rest))
    rw [readFields?, fieldName?_of_skipSpaces hesc hpieces]
    simp only [if_pos hshort, skipSpaces_space, skipSpaces_write, hx]
    simp only [skipSpaces_cons (c := ',') (by decide), if_pos hshorter, hmore, Option.map_some]

end

theorem read?_write (hesc : ReadsBack escape) (x : Json) : read? (write escape x) = some x := by
  have hend : EndsNumber [] := by simp [EndsNumber]
  have hread := readValue?_write hesc x hend
  have hskip := skipSpaces_write escape x []
  rw [List.append_nil] at hread hskip
  rw [read?, hskip, hread]
  rfl

end

theorem read?_streamText (x : Json) : read? x.streamText = some x :=
  read?_write readsBack_streamChar x

/-- What is read from a script element has the fields of its objects sorted. -/
theorem read?_scriptText (x : Json) : read? x.scriptText = some x.sorted :=
  read?_write readsBack_scriptChar x.sorted

end TableAtlas.Json
