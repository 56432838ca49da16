import TableAtlas.Proofs.BlockReading
import TableAtlas.Proofs.DeclaredColumn

/-!
# How a column line is read

A line is read without the blanks at its ends. What it declares is told here part by part, without
saying how a part is found: the name and what stands behind it, the type at the front of that, the
leftmost comment, and whether the words `NOT NULL` stand anywhere. There is at most one column that
a line declares in this sense, and it is the one that is read.
-/

namespace TableAtlas.Dump

open Text

variable {s t l n r x : List Char} {keys : List String} {c c' : Column}

/-! ## Names, types and comments -/

/-- A closing quote, if one stands at the front, and the text behind it. -/
inductive ClosesName (s r : List Char) : Prop
  | quoted {c : Char} (hs : s = c :: r) (hc : isQuote c = true)
  | bare (hs : s = r) (hr : ∀ c ∈ r.head?, isQuote c = false)

/-- Whether a text begins with a name, at most one quote on either side of it, and goes on with the
text `r`. -/
def NamesBefore (s n r : List Char) : Prop :=
  ∃ q t, s = q ++ (n ++ t) ∧ q.length ≤ 1 ∧ (∀ c ∈ q, isQuote c = true) ∧ IsWordRun n ∧
    (∀ c ∈ t.head?, isWord c = false) ∧ ClosesName t r

/-- The type at the front of a text, a word with its arguments if they follow it at once. -/
inductive DeclaresType (s : List Char) : List Char → Prop
  | unknown (hs : ∀ c ∈ s.head?, isWord c = false) : DeclaresType s "unknown".toList
  | arguments {w x r : List Char} (hs : s = w ++ '(' :: (x ++ ')' :: r)) (hw : IsWordRun w)
    (hne : x ≠ []) (hclose : ')' ∉ x) : DeclaresType s (w ++ '(' :: x ++ [')'])
  | word {w t : List Char} (hs : s = w ++ t) (hw : IsWordRun w)
    (ht : ∀ c ∈ t.head?, isWord c = false)
    (hno : ∀ x r, t = '(' :: (x ++ ')' :: r) → x ≠ [] → ')' ∈ x) : DeclaresType s w

/-- Whether a text begins with the word `COMMENT`, blanks and the quoted text `x`. -/
def CommentsWith (s x : List Char) : Prop :=
  ∃ k b r, s = k ++ (b ++ '\'' :: (x ++ '\'' :: r)) ∧ fold k = "COMMENT".toList ∧ b ≠ [] ∧
    (∀ c ∈ b, isBlank c = true) ∧ x ≠ [] ∧ '\'' ∉ x

/-- The comment of a line, which is empty where there is none. -/
inductive HasComment (l : List Char) : List Char → Prop
  | clause {x : List Char} (h : Leftmost CommentsWith l x) : HasComment l x
  | none (h : ∀ u v x, l = u ++ v → ¬ CommentsWith v x) : HasComment l []

/-! ## Lines -/

/-- Why a line declares no column. -/
inductive DeclaresNothing (l : List Char) : Prop
  | empty (h : l = [])
  | structural {o : List Char} (ho : o ∈ structuralOpenings) (h : o <+: l)
  | nameless (h : ∀ n, ¬ BeginsWith n l)
  | reserved {n : List Char} (hn : BeginsWith n l) (h : upper n ∈ reservedNames)

/-- The parts of the column that a line declares. -/
structure Declares (keys : List String) (l : List Char) (c : Column) : Prop where
  name_type : ∃ r t, NamesBefore l c.name.toList r ∧ TrimsTo isBlank r t ∧
    DeclaresType t c.type.toList
  comment : HasComment l c.comment.toList
  isPrimaryKey : c.isPrimaryKey = true ↔ c.name ∈ keys
  isNullable : c.isNullable = true ↔ ¬ Contains (fold · = "NOT NULL".toList) l

/-- What a line is read as. -/
inductive LineReads (keys : List String) (line : List Char) : Option Column → Prop
  | nothing {l : List Char} (hl : TrimsTo isBlank line l) (h : DeclaresNothing l) :
    LineReads keys line none
  | column {l : List Char} {c : Column} (hl : TrimsTo isBlank line l) (h : ¬ DeclaresNothing l)
    (hc : Declares keys l c) : LineReads keys line (some c)

/-! ## The parts are what is found -/

theorem closesName_iff : ClosesName s r ↔ dropQuote s = r := by
  constructor
  · rintro (⟨rfl, hc⟩ | ⟨rfl, hr⟩)
    · simp [dropQuote, hc]
    · cases s with
      | nil => rfl
      | cons c s => simp [dropQuote, hr c rfl]
  · rintro rfl
    cases s with
    | nil => exact .bare rfl (by simp [dropQuote])
    | cons c s =>
      cases hc : isQuote c with
      | true => exact .quoted (by simp [dropQuote, hc]) hc
      | false => exact .bare (by simp [dropQuote, hc]) (by simp [dropQuote, hc])

theorem namesBefore_iff : NamesBefore s n r ↔ leadingName? s = some (n, r) := by
  simp only [NamesBefore, closesName_iff, leadingName?_eq_some_iff]

theorem declaresType_declaredType (s : List Char) : DeclaresType s (declaredType s) := by
  obtain ⟨w, t, rfl, hw, ht⟩ := exists_run isWord s
  simp only [declaredType, takeWhile_run hw ht, dropWhile_run hw ht]
  cases w with
  | nil => exact .unknown (by simpa using ht)
  | cons c w =>
    have hword : IsWordRun (c :: w) := ⟨List.cons_ne_nil c w, hw⟩
    rw [if_neg (by simp)]
    split
    case h_1 x hx =>
      obtain ⟨r, rfl, hne, hclose⟩ := enclosed?_eq_some_iff.1 hx
      exact .arguments rfl hword hne hclose
    case h_2 hnone =>
      refine .word rfl hword ht fun x r hr hne => ?_
      by_contra hclose
      rw [enclosed?_eq_some_iff.2 ⟨r, hr, hne, hclose⟩] at hnone
      cases hnone

/-- The type that a word begins goes on with arguments or with nothing. -/
theorem declaredType_word (hn : IsWordRun n) (hr : ∀ c ∈ r.head?, isWord c = false) :
    declaredType (n ++ r) = (enclosed? '(' ')' r).elim n fun x => n ++ '(' :: x ++ [')'] := by
  have hne : n.isEmpty = false := by simpa using hn.ne_nil
  simp only [declaredType, takeWhile_run hn.isWord hr, dropWhile_run hn.isWord hr, hne,
    Bool.false_eq_true, ↓reduceIte]
  cases enclosed? '(' ')' r <;> rfl

theorem DeclaresType.eq_declaredType (h : DeclaresType s t) : declaredType s = t := by
  cases h with
  | unknown hs =>
    have hrun := takeWhile_run (u := []) (p := isWord) (by simp) hs
    rw [List.nil_append] at hrun
    rw [declaredType, hrun]
    rfl
  | arguments hs hw hne hclose =>
    rw [hs, declaredType_word hw (forall_mem_head?_cons (by decide)),
      enclosed?_eq_some_iff.2 ⟨_, rfl, hne, hclose⟩, Option.elim_some]
  | word hs hw ht hno =>
    rename_i rest
    have hnone : enclosed? '(' ')' rest = none := by
      by_contra hsome
      obtain ⟨x, hx⟩ := Option.ne_none_iff_exists'.1 hsome
      obtain ⟨r, hr, hne, hclose⟩ := enclosed?_eq_some_iff.1 hx
      exact hclose (hno x r hr hne)
    rw [hs, declaredType_word hw ht, hnone, Option.elim_none]

theorem commentClause?_eq_some_iff : commentClause? s = some x ↔ CommentsWith s x := by
  rw [readsQuotation_commentClause?.eq_some_iff]
  constructor
  · rintro ⟨_, r, ⟨k, b, rfl, hk, hne, hb⟩, rfl, hx, hquote⟩
    exact ⟨k, b, r, by simp, hk, hne, hb, hx, hquote⟩
  · rintro ⟨k, b, r, rfl, hk, hne, hb, hx, hquote⟩
    exact ⟨k ++ b, r, ⟨k, b, rfl, hk, hne, hb⟩, by simp, hx, hquote⟩

theorem hasComment_iff : HasComment l x ↔ (search? commentClause? l).getD [] = x := by
  have hread : ∀ s a, commentClause? s = some a ↔ CommentsWith s a := fun _ _ =>
    commentClause?_eq_some_iff
  constructor
  · rintro (h | h)
    · rw [(search?_eq_some_iff_leftmost hread).2 h]
      rfl
    · rw [(search?_eq_none_iff_forall hread).2 h]
      rfl
  · rintro rfl
    cases h : search? commentClause? l with
    | none => exact .none ((search?_eq_none_iff_forall hread).1 h)
    | some y => exact .clause ((search?_eq_some_iff_leftmost hread).1 h)

/-! ## The column -/

theorem declaresNothing_iff : DeclaresNothing l ↔ (l.isEmpty || isStructural l) = true ∨
    ∀ n r, leadingName? l = some (n, r) → isReserved n = true := by
  constructor
  · rintro (h | ⟨ho, h⟩ | h | ⟨hn, h⟩)
    · simp [h]
    · exact .inl (Bool.or_eq_true_iff.2 (.inr (isStructural_iff.2 ⟨_, ho, h⟩)))
    · refine .inr fun n r hname => absurd (leadingName?_iff.1 ?_) (h n)
      rw [hname]
      rfl
    · refine .inr fun m r hname => ?_
      have hm := leadingName?_iff.2 hn
      rw [hname] at hm
      obtain rfl := Option.some.inj hm
      simpa [isReserved] using h
  · rintro (h | h)
    · rcases Bool.or_eq_true_iff.1 h with h | h
      · exact .empty (List.isEmpty_iff.1 h)
      · obtain ⟨o, ho, hprefix⟩ := isStructural_iff.1 h
        exact .structural ho hprefix
    · cases hname : leadingName? l with
      | none =>
        refine .nameless fun n hn => ?_
        rw [← leadingName?_iff, hname] at hn
        cases hn
      | some p =>
        have hn : BeginsWith p.1 l := leadingName?_iff.1 (by rw [hname]; rfl)
        exact .reserved hn (by simpa [isReserved] using h p.1 p.2 hname)

theorem columnOfLine?_eq_none_iff :
    columnOfLine? keys s = none ↔ DeclaresNothing (trim s) := by
  rw [declaresNothing_iff]
  simp only [columnOfLine?]
  split
  case isTrue h => simp [h]
  case isFalse h =>
    cases hname : leadingName? (trim s) with
    | none => simp
    | some p =>
      obtain ⟨n, r⟩ := p
      cases hreserved : isReserved n <;> simp_all

/-- What makes up the column that a line declares. -/
theorem columnOfLine?_eq_some (h : columnOfLine? keys s = some c) :
    ∃ n r, leadingName? (trim s) = some (n, r) ∧ isReserved n = false ∧ c = {
      name := String.ofList n
      type := String.ofList (declaredType (trim r))
      comment := String.ofList ((search? commentClause? (trim s)).getD [])
      isPrimaryKey := keys.contains (String.ofList n)
      isNullable := !occurs (hasKeyword "NOT NULL".toList) (trim s) } := by
  simp only [columnOfLine?] at h
  split at h
  case isTrue => cases h
  case isFalse =>
    cases hname : leadingName? (trim s) with
    | none => simp [hname] at h
    | some p =>
      obtain ⟨n, r⟩ := p
      cases hreserved : isReserved n with
      | true => simp [hname, hreserved] at h
      | false =>
        simp only [hname, hreserved, Bool.false_eq_true, ↓reduceIte, Option.some.injEq] at h
        exact ⟨n, r, rfl, hreserved, h.symm⟩

/-- Of the key names only those matter that a column can have. -/
theorem columnOfLine?_congr {keys keys' : List String}
    (h : ∀ n, IsWordRun n → (String.ofList n ∈ keys ↔ String.ofList n ∈ keys'))
    (line : List Char) : columnOfLine? keys line = columnOfLine? keys' line := by
  simp only [columnOfLine?]
  split
  case isTrue => rfl
  case isFalse =>
    cases hname : leadingName? (trim line) with
    | none => rfl
    | some r =>
      have hkey : keys.contains (String.ofList r.1) = keys'.contains (String.ofList r.1) := by
        rw [Bool.eq_iff_iff]
        simpa using h r.1 (isWordRun_of_leadingName? hname)
      simp only [hkey]

theorem columns_congr {keys keys' : List String}
    (h : ∀ n, IsWordRun n → (String.ofList n ∈ keys ↔ String.ofList n ∈ keys')) (s : List Char) :
    columns keys s = columns keys' s :=
  List.filterMap_congr fun line _ => columnOfLine?_congr h line

theorem declares_of_columnOfLine? (h : columnOfLine? keys s = some c) :
    Declares keys (trim s) c := by
  obtain ⟨n, r, hname, -, rfl⟩ := columnOfLine?_eq_some h
  exact {
    name_type := by
      refine ⟨r, trim r, ?_, trimsTo_trimBy isBlank r, ?_⟩
      · rwa [String.toList_ofList, namesBefore_iff]
      · rw [String.toList_ofList]
        exact declaresType_declaredType (trim r)
    comment := by rw [String.toList_ofList, hasComment_iff]
    isPrimaryKey := List.contains_iff_mem
    isNullable := by
      rw [← occurs_keyword_iff (by decide)]
      simp }

theorem Declares.unique (h : Declares keys l c) (h' : Declares keys l c') : c = c' := by
  obtain ⟨⟨r, t, hname, ht, htype⟩, hcomment, hkey, hnull⟩ := h
  obtain ⟨⟨r', t', hname', ht', htype'⟩, hcomment', hkey', hnull'⟩ := h'
  rw [namesBefore_iff] at hname hname'
  rw [← trimBy_eq_iff] at ht ht'
  rw [hasComment_iff] at hcomment hcomment'
  have heq := Option.some.inj (hname.symm.trans hname')
  obtain ⟨hn, rfl⟩ := Prod.mk.inj heq
  obtain rfl := ht.symm.trans ht'
  have hname : c.name = c'.name := String.toList_injective hn
  have htype : c.type = c'.type :=
    String.toList_injective (htype.eq_declaredType.symm.trans htype'.eq_declaredType)
  have hcomment : c.comment = c'.comment :=
    String.toList_injective (hcomment.symm.trans hcomment')
  have hkey : c.isPrimaryKey = c'.isPrimaryKey := by
    rw [Bool.eq_iff_iff, hkey, hkey', hname]
  have hnull : c.isNullable = c'.isNullable := by
    rw [Bool.eq_iff_iff, hnull, hnull']
  cases c
  cases c'
  simp_all

theorem lineReads_columnOfLine? (keys : List String) (line : List Char) :
    LineReads keys line (columnOfLine? keys line) := by
  have htrim := trimsTo_trimBy isBlank line
  cases h : columnOfLine? keys line with
  | none => exact .nothing htrim (columnOfLine?_eq_none_iff.1 h)
  | some c =>
    refine .column htrim (fun hnothing => ?_) (declares_of_columnOfLine? h)
    rw [columnOfLine?_eq_none_iff.2 hnothing] at h
    cases h

/-- A line is read as the column that it declares, and as none exactly if it declares none. -/
theorem columnOfLine?_classifies (keys : List String) (line : List Char) (r : Option Column) :
    columnOfLine? keys line = r ↔ LineReads keys line r := by
  constructor
  · rintro rfl
    exact lineReads_columnOfLine? keys line
  · rintro (⟨hl, h⟩ | ⟨hl, h, hc⟩)
    · obtain rfl := trimBy_eq_iff.2 hl
      exact columnOfLine?_eq_none_iff.2 h
    · obtain rfl := trimBy_eq_iff.2 hl
      obtain ⟨c', hc'⟩ := Option.ne_none_iff_exists'.1 (columnOfLine?_eq_none_iff.not.2 h)
      rw [hc', (declares_of_columnOfLine? hc').unique hc]

/-- Quotes need not match, arguments that are not closed are left out, a comment without a text is
passed over, and a name is reserved if its letters are in upper case. -/
example : columnOfLine? ["n"] "\t`n\" int( comment '' Comment\n'x' not null,".toList =
      some ⟨"n", "int", "x", true, false⟩ ∧
    columnOfLine? [] "con\ufb06raint c check (n > 0)".toList = none := by
  decide +kernel

end TableAtlas.Dump
