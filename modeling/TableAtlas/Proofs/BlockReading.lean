import TableAtlas.Proofs.StatementCut

/-!
# How a block is read

A block names its table at its front, behind blanks and perhaps a guard, and its body reaches from
its first parenthesis to the one that closes it. Both are told here without saying how they are
found: there is at most one name and at most one body, and what a block is read as depends on which
of them there are.
-/

namespace TableAtlas.Dump

open Text

variable {b s r n : List Char}

/-! ## The name -/

/-- A keyword in any case with blanks behind it. -/
def IsSpacedWord (k : String) (w : List Char) : Prop :=
  ∃ a x, w = a ++ x ∧ fold a = k.toList ∧ x ≠ [] ∧ ∀ c ∈ x, isBlank c = true

/-- The words `IF NOT EXISTS` with blanks behind each of them. -/
def IsGuard (g : List Char) : Prop :=
  ∃ i n e, g = i ++ (n ++ e) ∧ IsSpacedWord "IF" i ∧ IsSpacedWord "NOT" n ∧
    IsSpacedWord "EXISTS" e

/-- Whether a text begins with a name, before which one quote may stand. The name goes on as long
as there are word characters. -/
def BeginsWith (n s : List Char) : Prop :=
  ∃ q r, s = q ++ (n ++ r) ∧ q.length ≤ 1 ∧ (∀ c ∈ q, isQuote c = true) ∧ IsWordRun n ∧
    ∀ c ∈ r.head?, isWord c = false

/-- Whether a block names a table behind a guard. -/
def NamesGuarded (b n : List Char) : Prop :=
  ∃ x g s, b = x ++ (g ++ s) ∧ (∀ c ∈ x, isBlank c = true) ∧ IsGuard g ∧ BeginsWith n s

/-- Whether a block names a table at its front. -/
def NamesPlain (b n : List Char) : Prop :=
  ∃ x s, b = x ++ s ∧ (∀ c ∈ x, isBlank c = true) ∧ BeginsWith n s

/-- The name of the table of a block. A guard with no name behind it is no guard. -/
inductive NamesTable (b n : List Char) : Prop
  | guarded (h : NamesGuarded b n)
  | plain (hfree : ∀ m, ¬ NamesGuarded b m) (h : NamesPlain b n)

theorem BeginsWith.head_not_blank (h : BeginsWith n s) : ∀ c ∈ s.head?, isBlank c = false := by
  obtain ⟨q, r, rfl, -, hquote, hn, -⟩ := h
  cases q with
  | nil => exact hn.head_not (fun _ => isWord_of_isBlank) r
  | cons c q => exact forall_mem_head?_cons (isBlank_of_isQuote (hquote c (by simp)))

theorem leadingName?_iff : (leadingName? s).map (·.1) = some n ↔ BeginsWith n s := by
  constructor
  · intro h
    obtain ⟨⟨n, r⟩, hname, rfl⟩ := Option.map_eq_some_iff.1 h
    obtain ⟨q, t, hs, hlength, hquote, hn, ht, -⟩ := leadingName?_eq_some_iff.1 hname
    exact ⟨q, t, hs, hlength, hquote, hn, ht⟩
  · rintro ⟨q, t, hs, hlength, hquote, hn, ht⟩
    rw [leadingName?_eq_some_iff.2 ⟨q, t, hs, hlength, hquote, hn, ht, rfl⟩]
    rfl

theorem IsSpacedWord.head_not_blank {k : String} {c : Char} {w : List Char}
    (hk : k.toList.head? = some c) (hc : isBlank c = false) (h : IsSpacedWord k w)
    (s : List Char) : ∀ x ∈ (w ++ s).head?, isBlank x = false := by
  obtain ⟨a, x, rfl, ha, -, -⟩ := h
  apply head_not_blank_of_fold
  rw [fold_append, fold_append, ha, List.append_assoc, List.head?_append, hk, Option.some_or]
  intro y hy
  obtain rfl := Option.some.inj hy
  exact hc

theorem afterSpacedWord_eq_some_iff {k : String} (hk : fold k.toList = k.toList) :
    (afterKeyword? k.toList s).bind afterBlanks? = some r ↔
      ∃ w, IsSpacedWord k w ∧ s = w ++ r ∧ ∀ c ∈ r.head?, isBlank c = false := by
  simp only [Option.bind_eq_some_iff, afterKeyword?_eq_some_iff_fold hk, afterBlanks?_eq_some_iff]
  constructor
  · rintro ⟨_, ⟨a, ha, rfl⟩, x, hne, hx, rfl, hr⟩
    exact ⟨a ++ x, ⟨a, x, rfl, ha, hne, hx⟩, by simp, hr⟩
  · rintro ⟨_, ⟨a, x, rfl, ha, hne, hx⟩, rfl, hr⟩
    exact ⟨x ++ r, ⟨a, ha, by simp⟩, x, hne, hx, rfl, hr⟩

theorem IsGuard.head_not_blank {g : List Char} (h : IsGuard g) (s : List Char) :
    ∀ c ∈ (g ++ s).head?, isBlank c = false := by
  obtain ⟨i, n, e, rfl, hi, -, -⟩ := h
  rw [List.append_assoc]
  exact hi.head_not_blank (c := 'I') (by decide) (by decide) _

theorem afterGuard?_eq_some_iff :
    afterGuard? s = some r ↔
      ∃ g, IsGuard g ∧ s = g ++ r ∧ ∀ c ∈ r.head?, isBlank c = false := by
  have hwords : afterGuard? s = ((afterKeyword? "IF".toList s).bind afterBlanks?).bind fun s =>
      ((afterKeyword? "NOT".toList s).bind afterBlanks?).bind fun s =>
        (afterKeyword? "EXISTS".toList s).bind afterBlanks? := by
    simp only [afterGuard?, bind, Option.bind_assoc]
  simp only [hwords, Option.bind_eq_some_iff (x := (Option.bind _ _)),
    afterSpacedWord_eq_some_iff (k := "IF") (by decide),
    afterSpacedWord_eq_some_iff (k := "NOT") (by decide),
    afterSpacedWord_eq_some_iff (k := "EXISTS") (by decide)]
  constructor
  · rintro ⟨_, ⟨i, hi, rfl, -⟩, _, ⟨n, hn, rfl, -⟩, e, he, rfl, hr⟩
    exact ⟨i ++ (n ++ e), ⟨i, n, e, rfl, hi, hn, he⟩, by simp, hr⟩
  · rintro ⟨_, ⟨i, n, e, rfl, hi, hn, he⟩, rfl, hr⟩
    have hnot := hn.head_not_blank (c := 'N') (by decide) (by decide) (e ++ r)
    have hexists := he.head_not_blank (c := 'E') (by decide) (by decide) r
    exact ⟨n ++ (e ++ r), ⟨i, hi, by simp, hnot⟩, e ++ r, ⟨n, hn, rfl, hexists⟩, e, he, rfl, hr⟩

theorem namesGuarded_iff :
    ((afterGuard? (b.dropWhile isBlank)).bind leadingName?).map (·.1) = some n ↔
      NamesGuarded b n := by
  constructor
  · intro h
    obtain ⟨x, t, rfl, hx, ht⟩ := exists_run isBlank b
    rw [dropWhile_run hx ht] at h
    obtain ⟨⟨n, r⟩, hbind, rfl⟩ := Option.map_eq_some_iff.1 h
    obtain ⟨s, hguard, hname⟩ := Option.bind_eq_some_iff.1 hbind
    obtain ⟨g, hg, rfl, -⟩ := afterGuard?_eq_some_iff.1 hguard
    exact ⟨x, g, s, rfl, hx, hg, leadingName?_iff.1 (by rw [hname]; rfl)⟩
  · rintro ⟨x, g, s, rfl, hx, hg, hs⟩
    have hdrop : (x ++ (g ++ s)).dropWhile isBlank = g ++ s :=
      dropWhile_run hx (hg.head_not_blank s)
    have hguard : afterGuard? (g ++ s) = some s :=
      afterGuard?_eq_some_iff.2 ⟨g, hg, rfl, hs.head_not_blank⟩
    rw [hdrop, hguard]
    exact leadingName?_iff.2 hs

theorem namesPlain_iff :
    (leadingName? (b.dropWhile isBlank)).map (·.1) = some n ↔ NamesPlain b n := by
  rw [leadingName?_iff]
  constructor
  · intro h
    obtain ⟨x, t, rfl, hx, ht⟩ := exists_run isBlank b
    rw [dropWhile_run hx ht] at h
    exact ⟨x, t, rfl, hx, h⟩
  · rintro ⟨x, s, rfl, hx, hs⟩
    rwa [dropWhile_run hx hs.head_not_blank]

theorem namesTable_iff : NamesTable b n ↔ tableName? b = some n := by
  have hfree : ((afterGuard? (b.dropWhile isBlank)).bind leadingName?).map (·.1) = none ↔
      ∀ m, ¬ NamesGuarded b m := by
    simp only [Option.eq_none_iff_forall_ne_some, Ne, namesGuarded_iff]
  simp only [tableName?, Option.map_or, Option.or_eq_some_iff, hfree, namesGuarded_iff,
    namesPlain_iff]
  constructor
  · rintro (h | ⟨hfree, h⟩)
    · exact .inl h
    · exact .inr ⟨hfree, h⟩
  · rintro (h | ⟨hfree, h⟩)
    · exact .guarded h
    · exact .plain hfree h

/-! ## The body -/

/-- A text in which no more parentheses are closed than were opened, and in all as many. -/
structure IsBalanced (w : List Char) : Prop where
  never_below : ∀ p, p <+: w → p.count ')' ≤ p.count '('
  count_eq : w.count '(' = w.count ')'

/-- A block with a body between its first parenthesis and the one that closes it. -/
structure Cut (b : List Char) where
  front : List Char
  body : List Char
  trailing : List Char
  text : b = front ++ '(' :: (body ++ ')' :: trailing)
  first : '(' ∉ front
  balanced : IsBalanced body

theorem forall_prefix_cons_iff {q : List Char → Prop} {c : Char} :
    (∀ p, p <+: c :: s → q p) ↔ q [] ∧ ∀ p, p <+: s → q (c :: p) := by
  constructor
  · intro h
    exact ⟨h [] List.nil_prefix, fun p hp => h (c :: p) (List.cons_prefix_cons.2 ⟨rfl, hp⟩)⟩
  · rintro ⟨hnil, hcons⟩ p hp
    rcases List.prefix_cons_iff.1 hp with rfl | ⟨t, rfl, ht⟩
    · exact hnil
    · exact hcons t ht

/-- The depth behind a text by the numbers of parentheses in its beginnings. -/
theorem depth?_eq_some_iff {d e : Nat} :
    depth? d s = some e ↔
      (∀ p, p <+: s → p.count ')' ≤ d + p.count '(') ∧ e + s.count ')' = d + s.count '(' := by
  induction s generalizing d with
  | nil =>
    simp only [depth?, Option.some.injEq, List.prefix_nil, forall_eq, List.count_nil]
    omega
  | cons c s ih =>
    rw [forall_prefix_cons_iff]
    by_cases hopen : c = '('
    · subst hopen
      rw [depth?_open, ih]
      simp [Nat.add_assoc, Nat.add_comm 1]
    · by_cases hclose : c = ')'
      · subst hclose
        cases d with
        | zero =>
          -- the beginning that is this parenthesis alone closes what is not open
          refine iff_of_false (by simp [depth?_close_zero]) ?_
          rintro ⟨⟨-, hbelow⟩, -⟩
          exact absurd (hbelow [] List.nil_prefix) (by decide)
        | succ d =>
          rw [depth?_close, ih]
          have hne : ')' ≠ '(' := by decide
          simp only [List.count_nil, List.count_cons_self, List.count_cons_of_ne hne]
          constructor
          · rintro ⟨hbelow, hcount⟩
            refine ⟨⟨by omega, fun p hp => ?_⟩, by omega⟩
            have := hbelow p hp
            omega
          · rintro ⟨⟨-, hbelow⟩, hcount⟩
            refine ⟨fun p hp => ?_, by omega⟩
            have := hbelow p hp
            omega
      · rw [depth?_cons hopen hclose, ih]
        simp [List.count_cons_of_ne, hopen, hclose]

theorem isBalanced_iff : IsBalanced s ↔ depth? 0 s = some 0 := by
  rw [depth?_eq_some_iff]
  simp only [Nat.zero_add]
  constructor
  · rintro ⟨hbelow, hcount⟩
    exact ⟨hbelow, hcount.symm⟩
  · rintro ⟨hbelow, hcount⟩
    exact ⟨hbelow, hcount.symm⟩

theorem IsBalanced.not_append_close {w z : List Char} (hw : IsBalanced w) :
    ¬ IsBalanced (w ++ ')' :: z) := by
  intro h
  have hbelow := h.never_below (w ++ [')']) ⟨z, by simp⟩
  have hcount := hw.count_eq
  simp at hbelow
  omega

/-- A balanced text in front of a closing parenthesis is found in one way. -/
theorem IsBalanced.append_close_unique {w w' t t' : List Char} (hw : IsBalanced w)
    (hw' : IsBalanced w') (h : w ++ ')' :: t = w' ++ ')' :: t') : w = w' ∧ t = t' := by
  rcases List.append_eq_append_iff.1 h with ⟨z, rfl, hz⟩ | ⟨z, rfl, hz⟩
  · cases z with
    | nil => simpa using hz
    | cons c z =>
      obtain ⟨rfl, -⟩ := List.cons.inj hz
      exact absurd hw' hw.not_append_close
  · cases z with
    | nil => simpa using hz.symm
    | cons c z =>
      obtain ⟨rfl, -⟩ := List.cons.inj hz
      exact absurd hw hw'.not_append_close

theorem subsingleton_cut (b : List Char) : Subsingleton (Cut b) := by
  refine ⟨fun c c' => ?_⟩
  obtain ⟨hfront, hback⟩ := append_cons_unique c.first c'.first (c.text.symm.trans c'.text)
  obtain ⟨hbody, htrailing⟩ := c.balanced.append_close_unique c'.balanced hback
  cases c
  cases c'
  simp_all

/-! ## The block -/

/-- What a block is read as. -/
inductive Block.Reads (b : List Char) : Except SkipReason Block → Prop
  | missingName (h : ∀ n, ¬ NamesTable b n) : Reads b (.error .missingName)
  | missingBody {n : List Char} (hname : NamesTable b n) (hopen : '(' ∉ b) :
    Reads b (.error .missingBody)
  | unbalancedBody {n : List Char} (hname : NamesTable b n) (hopen : '(' ∈ b)
    (hcut : ¬ Nonempty (Cut b)) : Reads b (.error .unbalancedBody)
  | table {n : List Char} (hname : NamesTable b n) (c : Cut b) :
    Reads b (.ok ⟨n, c.body, c.trailing⟩)

theorem ofStatement_of_no_name (h : tableName? b = none) :
    Block.ofStatement b = .error .missingName := by
  simp only [Block.ofStatement, h]

theorem ofStatement_of_cut (hname : tableName? b = some n) (c : Cut b) :
    Block.ofStatement b = .ok ⟨n, c.body, c.trailing⟩ := by
  obtain ⟨front, body, trailing, rfl, hfront, hbody⟩ := c
  exact ofStatement_of_neutral hfront (isNeutral_of_balanced (isBalanced_iff.1 hbody)) hname

theorem ofStatement_of_no_cut (hname : tableName? b = some n) (hopen : '(' ∈ b)
    (hcut : ¬ Nonempty (Cut b)) : Block.ofStatement b = .error .unbalancedBody := by
  obtain ⟨front, s, rfl, hfront⟩ := List.eq_append_cons_of_mem hopen
  cases hdepth : depth? 0 s with
  | some e =>
    rw [tableName?_append_paren] at hname
    rw [ofStatement_of_open hfront hdepth, hname]
  | none =>
    obtain ⟨body, trailing, rfl, hbody⟩ := exists_close_of_depth?_eq_none hdepth
    exact absurd ⟨front, body, trailing, rfl, hfront, isBalanced_iff.2 hbody⟩ hcut

theorem Block.reads_ofStatement (b : List Char) : Block.Reads b (Block.ofStatement b) := by
  cases hname : tableName? b with
  | none =>
    rw [ofStatement_of_no_name hname]
    refine .missingName fun n hn => ?_
    rw [namesTable_iff.1 hn] at hname
    cases hname
  | some n =>
    have hn : NamesTable b n := namesTable_iff.2 hname
    by_cases hopen : '(' ∈ b
    · by_cases hcut : Nonempty (Cut b)
      · obtain ⟨c⟩ := hcut
        rw [ofStatement_of_cut hname c]
        exact .table hn c
      · rw [ofStatement_of_no_cut hname hopen hcut]
        exact .unbalancedBody hn hopen hcut
    · rw [ofStatement_of_no_open hopen, hname]
      exact .missingBody hn hopen

theorem Block.Reads.eq_ofStatement {r : Except SkipReason Block} (h : Block.Reads b r) :
    Block.ofStatement b = r := by
  cases h with
  | missingName h =>
    apply ofStatement_of_no_name
    exact Option.eq_none_iff_forall_ne_some.2 fun n hn => h n (namesTable_iff.2 hn)
  | missingBody hname hopen => rw [ofStatement_of_no_open hopen, namesTable_iff.1 hname]
  | unbalancedBody hname hopen hcut =>
    exact ofStatement_of_no_cut (namesTable_iff.1 hname) hopen hcut
  | table hname c => exact ofStatement_of_cut (namesTable_iff.1 hname) c

/-- A block is read as what it is by its name and its cut, and it is cut in one way at most. -/
theorem ofStatement_classifies (b : List Char) :
    (∀ r, Block.ofStatement b = r ↔ Block.Reads b r) ∧ Subsingleton (Cut b) := by
  refine ⟨fun r => ?_, subsingleton_cut b⟩
  constructor
  · rintro rfl
    exact Block.reads_ofStatement b
  · intro h
    exact h.eq_ofStatement

/-- Of a guard that guards no name the first word is the name. -/
example : Block.ofStatement "\n if not exists (a int(11)) -- )".toList =
    .ok ⟨"if".toList, "a int(11)".toList, " -- )".toList⟩ := by
  decide

end TableAtlas.Dump
