import TableAtlas.Proofs.KeyReading

/-!
# Key parts with a length

A part of a key may take only the front of a column, up to a length given in parentheses. The
parenthesis that closes the first length ends the list that is read. So the key columns are those
named by parts before the first length, and these are all that the key names only if no column is
named from there on alone.
-/

namespace TableAtlas.Dump

open Text

/-- A part of a key: the name of a column, quoted or not, and a length unless the part is the whole
column. -/
structure KeyPart where
  name : Word
  isQuoted : Bool
  length? : Option (List Char)
  isDigit_of_mem : ∀ n ∈ length?, ∀ x ∈ n, x.isDigit = true

namespace KeyPart

def nameText (p : KeyPart) : List Char :=
  if p.isQuoted then backquoted p.name.chars else p.name.chars

/-- A part without the parenthesis that closes its length. -/
def opened (p : KeyPart) : List Char :=
  match p.length? with
  | none => p.nameText
  | some n => p.nameText ++ '(' :: n

def isWhole (p : KeyPart) : Bool := p.length?.isNone

def text (p : KeyPart) : List Char := if p.isWhole then p.opened else p.opened ++ [')']

def columnName (p : KeyPart) : String := String.ofList p.name.chars

end KeyPart

def partList (ps : List KeyPart) : List Char := [',', ' '].intercalate (ps.map KeyPart.text)

/-- The parts before the first one with a length. -/
def wholeParts (ps : List KeyPart) : List KeyPart := ps.takeWhile KeyPart.isWhole

/-- The texts of the parts up to the first closing parenthesis. -/
def partsRead : List KeyPart → List (List Char)
  | [] => []
  | p :: ps => if p.isWhole then p.opened :: partsRead ps else [p.opened]

/-- A column list whose last line is the key line. The lines before it open no other key list, as
they do not where the words `PRIMARY KEY` are missing. -/
structure KeyedBody where
  columnLines : List Char
  indent : List Char
  parts : List KeyPart
  ending : List Char
  ends_in_break : ∀ c ∈ columnLines.getLast?, isLineBreak c = true
  opens_no_list : ¬ Contains IsKeyOpening columnLines
  isBlank_of_mem : ∀ c ∈ indent, isBlank c = true ∧ isLineBreak c = false
  parts_ne_nil : parts ≠ []
  isLineBreak_of_mem : ∀ c ∈ ending, isLineBreak c = true

/-- The words in front of the list, as export tools write them. -/
def clauseOpening : List Char := "PRIMARY KEY (".toList

namespace KeyedBody

def clause (b : KeyedBody) : List Char := clauseOpening ++ (partList b.parts ++ [')'])

def text (b : KeyedBody) : List Char := b.columnLines ++ (b.indent ++ b.clause ++ b.ending)

/-- The columns that are read. -/
def columns (b : KeyedBody) : List Column := Dump.columns (keyNames b.text) b.text

/-- Whether the key columns are exactly those that the key names. -/
def FlagsKey (b : KeyedBody) : Prop :=
  ∀ c ∈ b.columns, c.isPrimaryKey = true ↔ ∃ p ∈ b.parts, p.columnName = c.name

end KeyedBody

variable {p : KeyPart} {ps : List KeyPart} {b : KeyedBody} {n : List Char} {x : Char}

/-! ## Parts -/

theorem isWord_of_isDigit (h : x.isDigit = true) : isWord x = true := by
  have htable : ∀ i < 10, inRanges (48 + i) wordRanges = true := by decide +kernel
  obtain ⟨hlo, hhi⟩ : 48 ≤ x.toNat ∧ x.toNat ≤ 57 := by
    simpa [Char.isDigit, UInt32.le_iff_toNat_le] using h
  have hx := htable (x.toNat - 48) (by omega)
  rwa [Nat.add_sub_cancel' hlo] at hx

namespace KeyPart

theorem opened_of_isWhole (h : p.isWhole = true) : p.opened = p.nameText := by
  rw [isWhole, Option.isNone_iff_eq_none] at h
  rw [opened, h]

theorem exists_opened (h : p.isWhole = false) : ∃ n, p.opened = p.nameText ++ '(' :: n := by
  obtain ⟨n, hn⟩ : ∃ n, p.length? = some n := by
    simpa [isWhole, Option.isSome_iff_exists] using h
  exact ⟨n, by rw [opened, hn]⟩

theorem not_mem_nameText (hword : isWord x = false) (hquote : x ≠ '\x60') : x ∉ p.nameText := by
  have hname := p.name.not_mem hword
  unfold nameText backquoted
  split <;> simp [hname, hquote]

theorem not_mem_opened (hword : isWord x = false) (hx : x ∉ ['\x60', '(']) : x ∉ p.opened := by
  simp only [List.mem_cons, List.not_mem_nil, or_false, not_or] at hx
  have hname := p.not_mem_nameText hword hx.1
  unfold opened
  split
  case h_1 => exact hname
  case h_2 n hn =>
    have hdigits : x ∉ n := by
      intro hmem
      rw [isWord_of_isDigit (p.isDigit_of_mem n hn x hmem)] at hword
      cases hword
    simp [hname, hx.2, hdigits]

theorem opened_ne_nil : p.opened ≠ [] := by
  have hname : p.nameText ≠ [] := by
    unfold nameText
    split
    · exact List.cons_ne_nil _ _
    · exact p.name.ne_nil
  unfold opened
  split
  · exact hname
  · simp

theorem opened_not_blank : ∀ x ∈ p.opened, isBlank x = false := by
  intro x hx
  by_contra h
  rw [Bool.not_eq_false] at h
  refine p.not_mem_opened (isWord_of_isBlank h) ?_ hx
  intro hmem
  have hmarks : ∀ y ∈ ['\x60', '('], isBlank y = false := by decide
  rw [hmarks x hmem] at h
  cases h

/-- A word is read from a part exactly if the part is whole and names the word. -/
theorem trimBy_opened_eq_iff (hn : IsWordRun n) :
    trimBy isQuote p.opened = n ↔ p.isWhole = true ∧ p.name.chars = n := by
  cases hp : p.isWhole with
  | true =>
    have hread : trimBy isQuote p.nameText = p.name.chars := by
      unfold nameText
      split
      · exact trimBy_backquoted p.name
      · simpa using trimBy_append (u := []) (v := []) (by simp) (by simp) p.name.not_quote
    rw [opened_of_isWhole hp, hread]
    simp
  | false =>
    -- the parenthesis of the length stays
    obtain ⟨m, hm⟩ := exists_opened hp
    rw [hm, trimBy_append_cons (by decide)]
    simp only [Bool.false_eq_true, false_and, iff_false]
    rintro rfl
    exact absurd (hn.isWord '(' (by simp)) (by decide)

end KeyPart

theorem mem_partsRead {t : List Char} (h : t ∈ partsRead ps) : ∃ p, t = KeyPart.opened p := by
  induction ps with
  | nil => cases h
  | cons p ps ih =>
    rw [partsRead] at h
    split at h
    · rcases List.mem_cons.1 h with rfl | h
      · exact ⟨p, rfl⟩
      · exact ih h
    · exact ⟨p, List.mem_singleton.1 h⟩

theorem partsRead_ne_nil (h : ps ≠ []) : partsRead ps ≠ [] := by
  obtain ⟨p, ps, rfl⟩ := List.exists_cons_of_ne_nil h
  rw [partsRead]
  split <;> exact List.cons_ne_nil _ _

/-- The words that are read from the parts are the names of the whole parts in front. -/
theorem exists_partRead_iff (hn : IsWordRun n) :
    (∃ t ∈ partsRead ps, trimBy isQuote t = n) ↔ ∃ p ∈ wholeParts ps, p.name.chars = n := by
  induction ps with
  | nil => simp [partsRead, wholeParts]
  | cons p ps ih =>
    rw [wholeParts] at ih
    have hread := p.trimBy_opened_eq_iff hn
    cases hp : p.isWhole with
    | true =>
      rw [hp] at hread
      simp [partsRead, wholeParts, hp, hread, ih]
    | false =>
      rw [hp] at hread
      simp [partsRead, wholeParts, hp, hread]

/-- What is written up to the first closing parenthesis is what is read. -/
theorem exists_partList_append_close (hne : ps ≠ []) (t : List Char) :
    ∃ r, partList ps ++ ')' :: t = [',', ' '].intercalate (partsRead ps) ++ ')' :: r := by
  induction ps with
  | nil => exact absurd rfl hne
  | cons p ps ih =>
    cases hp : p.isWhole with
    | true =>
      cases ps with
      | nil => exact ⟨t, by simp [partList, partsRead, KeyPart.text, hp]⟩
      | cons q qs =>
        obtain ⟨r, hr⟩ := ih (List.cons_ne_nil q qs)
        refine ⟨r, ?_⟩
        have hread : partsRead (p :: q :: qs) = p.opened :: partsRead (q :: qs) := by
          rw [partsRead, if_pos hp]
        have hwritten : partList (p :: q :: qs) = p.opened ++ [',', ' '] ++ partList (q :: qs) := by
          simp [partList, KeyPart.text, hp]
        have hrest : partsRead (q :: qs) ≠ [] := partsRead_ne_nil (List.cons_ne_nil q qs)
        rw [hread, hwritten, List.intercalate_cons_of_ne_nil hrest, List.append_assoc, hr]
        simp
    | false =>
      obtain ⟨s, hs⟩ : ∃ s, partList (p :: ps) = p.opened ++ ')' :: s := by
        cases ps with
        | nil => exact ⟨[], by simp [partList, KeyPart.text, hp]⟩
        | cons q qs =>
          exact ⟨[',', ' '] ++ partList (q :: qs), by simp [partList, KeyPart.text, hp]⟩
      exact ⟨s ++ ')' :: t, by simp [partsRead, hp, hs]⟩

/-! ## The key line -/

theorem not_mem_partList (hword : isWord x = false) (hx : x ∉ ['\x60', '(', ')', ',', ' ']) :
    x ∉ partList ps := by
  simp only [List.mem_cons, List.not_mem_nil, or_false, not_or] at hx
  obtain ⟨hquote, hopen, hclose, hcomma, hspace⟩ := hx
  intro hmem
  rcases mem_intercalate hmem with ⟨t, ht, hmem⟩ | hmem
  · obtain ⟨p, -, rfl⟩ := List.mem_map.1 ht
    have hopened : x ∉ p.opened := p.not_mem_opened hword (by simp [hquote, hopen])
    unfold KeyPart.text at hmem
    split at hmem
    · exact hopened hmem
    · simp [hopened, hclose] at hmem
  · simp [hcomma, hspace] at hmem

namespace KeyedBody

theorem clause_not_lineBreak (b : KeyedBody) : ∀ x ∈ b.clause, isLineBreak x = false := by
  have hmarks : ∀ y ∈ ['\x60', '(', ')', ',', ' '], isLineBreak y = false := by decide
  have hwords : ∀ y ∈ clauseOpening, isLineBreak y = false := by decide
  intro x hx
  by_contra h
  rw [Bool.not_eq_false] at h
  have hmark : x ∉ ['\x60', '(', ')', ',', ' '] := fun hmem => by simp [hmarks x hmem] at h
  have hlist : x ∉ partList b.parts :=
    not_mem_partList (isWord_of_isBlank (isBlank_of_isLineBreak h)) hmark
  rcases List.mem_append.1 hx with hx | hx
  · simp [hwords x hx] at h
  · rcases List.mem_append.1 hx with hx | hx
    · exact hlist hx
    · obtain rfl : x = ')' := by simpa using hx
      exact hmark (by decide)

theorem trim_clause (b : KeyedBody) : trim (b.indent ++ b.clause) = b.clause := by
  refine trimBy_eq_iff.2 ⟨b.indent, [], by simp, fun x hx => (b.isBlank_of_mem x hx).1, by simp,
    ?_, ?_⟩
  · have hfirst : b.clause.head? = some 'P' := rfl
    rw [hfirst]
    decide
  · have hclose : partList b.parts ++ [')'] ≠ [] := by simp
    rw [clause, List.getLast?_append_of_ne_nil _ hclose, List.getLast?_concat]
    decide

/-- The key line declares no column. -/
theorem columns_text (b : KeyedBody) (keys : List String) :
    Dump.columns keys b.text = Dump.columns keys b.columnLines := by
  have hbreak : ∀ x ∈ b.indent ++ b.clause, isLineBreak x = false :=
    List.forall_mem_append.2 ⟨fun x hx => (b.isBlank_of_mem x hx).2, b.clause_not_lineBreak⟩
  have hnothing : DeclaresNothing (trim (b.indent ++ b.clause)) := by
    rw [trim_clause]
    exact .structural (o := "PRIMARY KEY".toList) (by decide)
      (List.prefix_append _ (' ' :: '(' :: _))
  have hline : Dump.columns keys (b.indent ++ b.clause ++ b.ending) = [] := by
    rw [columns_append_breaks b.isLineBreak_of_mem, columns_line hbreak,
      columnOfLine?_eq_none_iff.2 hnothing]
    rfl
  have hends := b.ends_in_break
  rw [text]
  rcases List.eq_nil_or_concat b.columnLines with hnil | ⟨u, c, hu⟩
  · rw [hnil, List.nil_append, hline, columns_nil]
  · rw [hu] at hends ⊢
    have hc : isLineBreak c = true := hends c (by simp)
    rw [List.concat_eq_append, List.append_assoc, List.singleton_append, columns_append_cons hc,
      columns_append_cons hc, hline, columns_nil]

theorem search?_text (b : KeyedBody) :
    search? keyList? b.text = some ([',', ' '].intercalate (partsRead b.parts)) := by
  obtain ⟨r, hr⟩ := exists_partList_append_close b.parts_ne_nil b.ending
  have hopening : IsKeyOpening clauseOpening :=
    ⟨"PRIMARY KEY".toList, [' '], by decide, by decide, by decide⟩
  have hlist : HasKeyList (clauseOpening ++ (partList b.parts ++ ')' :: b.ending))
      ([',', ' '].intercalate (partsRead b.parts)) := by
    refine ⟨_, r, hopening, by rw [hr], ?_, ?_⟩
    · obtain ⟨t, ts, hread⟩ := List.exists_cons_of_ne_nil (partsRead_ne_nil b.parts_ne_nil)
      obtain ⟨p, rfl⟩ : ∃ p, t = KeyPart.opened p := mem_partsRead (by rw [hread]; simp)
      rw [hread]
      cases ts <;> simp [p.opened_ne_nil]
    · intro hmem
      rcases mem_intercalate hmem with ⟨t, ht, hmem⟩ | hmem
      · obtain ⟨p, rfl⟩ := mem_partsRead ht
        exact p.not_mem_opened (by decide) (by decide) hmem
      · exact absurd hmem (by decide)
  have hindent : '(' ∉ b.indent := by
    intro hmem
    exact absurd (b.isBlank_of_mem _ hmem).1 (by decide)
  have hpieces : b.text = (b.columnLines ++ b.indent) ++
      (clauseOpening ++ (partList b.parts ++ ')' :: b.ending)) := by
    simp only [text, clause, List.append_assoc, List.singleton_append]
  rw [hpieces, search?_eq_some_iff_leftmost keyList?_iff_hasKeyList]
  exact leftmost_of_not_contains
    (fun h => b.opens_no_list (contains_keyOpening_of_append hindent h)) hlist

theorem mem_keyNames_text_iff (b : KeyedBody) (hn : IsWordRun n) :
    String.ofList n ∈ keyNames b.text ↔
      String.ofList n ∈ (wholeParts b.parts).map KeyPart.columnName := by
  have hread : (([',', ' '].intercalate (partsRead b.parts)).splitOn ',').map trim =
      partsRead b.parts := by
    apply map_trim_splitOn (partsRead_ne_nil b.parts_ne_nil)
    · intro t ht
      obtain ⟨p, rfl⟩ := mem_partsRead ht
      exact p.not_mem_opened (by decide) (by decide)
    · intro t ht
      obtain ⟨p, rfl⟩ := mem_partsRead ht
      exact p.opened_not_blank
  have hname : n ∈ listedNames ([',', ' '].intercalate (partsRead b.parts)) ↔
      ∃ t ∈ partsRead b.parts, trimBy isQuote t = n := by
    rw [mem_listedNames, and_iff_left hn.ne_nil]
    conv_rhs => rw [← hread]
    simp only [List.mem_map, exists_exists_and_eq_and]
  simp [mem_keyNames, b.search?_text, hname, exists_partRead_iff hn, KeyPart.columnName,
    String.ofList_inj]

end KeyedBody

/-! ## The key columns -/

/-- The key columns are those that the parts before the first length name. So they are those that
the key names exactly if it names no column by a part from there on alone. -/
theorem keys_are_parts_before_length (b : KeyedBody) :
    b.columns = columns ((wholeParts b.parts).map KeyPart.columnName) b.columnLines ∧
      (∀ c ∈ b.columns, c.isPrimaryKey = true ↔
        ∃ p ∈ wholeParts b.parts, p.columnName = c.name) ∧
      (b.FlagsKey ↔ ∀ c ∈ b.columns, (∃ p ∈ b.parts, p.columnName = c.name) →
        ∃ p ∈ wholeParts b.parts, p.columnName = c.name) := by
  have hread : b.columns = columns ((wholeParts b.parts).map KeyPart.columnName) b.columnLines := by
    rw [KeyedBody.columns, b.columns_text]
    exact columns_congr (fun n hn => b.mem_keyNames_text_iff hn) b.columnLines
  have hflag : ∀ c ∈ b.columns, c.isPrimaryKey = true ↔
      ∃ p ∈ wholeParts b.parts, p.columnName = c.name := by
    intro c hc
    rw [hread] at hc
    rw [isPrimaryKey_of_mem_columns hc]
    simp
  refine ⟨hread, hflag, ?_⟩
  constructor
  · intro h c hc hnamed
    exact (hflag c hc).1 ((h c hc).2 hnamed)
  · intro h c hc
    rw [hflag c hc]
    constructor
    · rintro ⟨p, hp, hname⟩
      exact ⟨p, (List.takeWhile_sublist _).subset hp, hname⟩
    · exact h c hc

/-- A body whose key has a length in its first part. -/
def lengthFirst : KeyedBody where
  columnLines := "  \x60a\x60 text,\n  \x60b\x60 int,\n".toList
  indent := [' ', ' ']
  parts := [
    ⟨⟨['a'], by decide, by decide⟩, true, some ['1', '0'], by decide⟩,
    ⟨⟨['b'], by decide, by decide⟩, true, none, by decide⟩]
  ending := ['\n']
  ends_in_break := by decide
  opens_no_list := by
    rw [← occurs_opensKeyList_iff]
    decide +kernel
  isBlank_of_mem := by decide
  parts_ne_nil := List.cons_ne_nil _ _
  isLineBreak_of_mem := by decide

theorem lengthFirst_flags_no_key :
    lengthFirst.text =
        "  \x60a\x60 text,\n  \x60b\x60 int,\n  PRIMARY KEY (\x60a\x60(10), \x60b\x60)\n".toList ∧
      lengthFirst.columns = [⟨"a", "text", "", false, true⟩, ⟨"b", "int", "", false, true⟩] ∧
      ¬ lengthFirst.FlagsKey := by
  have hcolumns : lengthFirst.columns =
      [⟨"a", "text", "", false, true⟩, ⟨"b", "int", "", false, true⟩] := by
    decide +kernel
  refine ⟨by decide +kernel, hcolumns, fun h => ?_⟩
  have hb := h ⟨"b", "int", "", false, true⟩ (by simp [hcolumns])
  have hnamed : ∃ p ∈ lengthFirst.parts, p.columnName = "b" := ⟨_, .tail _ (.head _), rfl⟩
  exact absurd (hb.2 hnamed) (by decide)

end TableAtlas.Dump
