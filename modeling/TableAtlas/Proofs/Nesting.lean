import TableAtlas.Dump.Block
import TableAtlas.Proofs.DeclaredKey

/-!
# Parentheses in a column list

A text is neutral if it closes exactly the parentheses that it opens and never more of them. All
items of a column list are neutral, so the list ends at its own closing parenthesis.
-/

namespace TableAtlas.Dump

open Text

variable {u v s : List Char}

/-- Whether a text returns to every depth from which it starts. -/
def IsNeutral (s : List Char) : Prop := ∀ d, depth? d s = some d

theorem depth?_open (d : Nat) (s : List Char) : depth? d ('(' :: s) = depth? (d + 1) s := by
  simp only [depth?, ↓reduceIte]

theorem depth?_close (d : Nat) (s : List Char) : depth? (d + 1) (')' :: s) = depth? d s := by
  simp only [depth?, Char.reduceEq, ↓reduceIte]

theorem depth?_close_zero (s : List Char) : depth? 0 (')' :: s) = none := by
  simp only [depth?, Char.reduceEq, ↓reduceIte]

theorem depth?_cons {c : Char} (hopen : c ≠ '(') (hclose : c ≠ ')') (d : Nat) (s : List Char) :
    depth? d (c :: s) = depth? d s := by
  simp only [depth?, hopen, hclose, ↓reduceIte]

theorem depth?_append (d : Nat) (u v : List Char) :
    depth? d (u ++ v) = (depth? d u).bind (depth? · v) := by
  induction u generalizing d with
  | nil => simp [depth?]
  | cons c u ih =>
    rw [List.cons_append]
    by_cases hopen : c = '('
    · rw [hopen, depth?_open, depth?_open, ih]
    · by_cases hclose : c = ')'
      · cases d with
        | zero => rw [hclose, depth?_close_zero, depth?_close_zero, Option.bind_none]
        | succ d => rw [hclose, depth?_close, depth?_close, ih]
      · rw [depth?_cons hopen hclose, depth?_cons hopen hclose, ih]

/-- What a text does from one depth it does from every greater one. -/
theorem depth?_add {d e : Nat} (h : depth? d s = some e) (k : Nat) :
    depth? (d + k) s = some (e + k) := by
  induction s generalizing d with
  | nil =>
    simp only [depth?, Option.some.injEq] at h ⊢
    omega
  | cons c s ih =>
    by_cases hopen : c = '('
    · rw [hopen, depth?_open] at h ⊢
      have hd : d + k + 1 = d + 1 + k := by omega
      rw [hd]
      exact ih h
    · by_cases hclose : c = ')'
      · cases d with
        | zero =>
          rw [hclose, depth?_close_zero] at h
          cases h
        | succ d =>
          have hd : d + 1 + k = d + k + 1 := by omega
          rw [hclose, depth?_close] at h
          rw [hclose, hd, depth?_close]
          exact ih h
      · rw [depth?_cons hopen hclose] at h ⊢
        exact ih h

theorem isNeutral_of_balanced (h : depth? 0 s = some 0) : IsNeutral s := by
  intro d
  simpa using depth?_add h d

theorem IsNeutral.append (hu : IsNeutral u) (hv : IsNeutral v) : IsNeutral (u ++ v) := by
  intro d
  rw [depth?_append, hu d, Option.bind_some, hv d]

theorem isNeutral_of_no_paren (h : ∀ x ∈ s, x ≠ '(' ∧ x ≠ ')') : IsNeutral s := by
  intro d
  induction s with
  | nil => simp only [depth?]
  | cons c s ih =>
    have hc := h c (by simp)
    rw [depth?_cons hc.1 hc.2]
    exact ih fun x hx => h x (by simp [hx])

theorem IsNeutral.enclose (hu : IsNeutral u) (hv : IsNeutral v) :
    IsNeutral ('(' :: (u ++ ')' :: v)) := by
  intro d
  rw [depth?_open, depth?_append, hu (d + 1), Option.bind_some, depth?_close, hv d]

theorem closingFrom?_append {d e : Nat} (h : depth? d u = some e) (i : Nat) :
    closingFrom? (d + 1) i (u ++ v) = closingFrom? (e + 1) (i + u.length) v := by
  induction u generalizing d i with
  | nil =>
    simp only [depth?, Option.some.injEq] at h
    subst h
    simp
  | cons c u ih =>
    have hlength : i + (c :: u).length = i + 1 + u.length := by
      rw [List.length_cons]
      omega
    rw [List.cons_append, closingFrom?, hlength]
    by_cases hopen : c = '('
    · rw [hopen, depth?_open] at h
      rw [if_pos hopen]
      exact ih h (i + 1)
    · rw [if_neg hopen]
      by_cases hclose : c = ')'
      · cases d with
        | zero =>
          rw [hclose, depth?_close_zero] at h
          cases h
        | succ d =>
          have hd : ¬ ((d + 1 : Nat) : Int) + 1 = 1 := by omega
          have hd' : ((d + 1 : Nat) : Int) + 1 - 1 = (d : Int) + 1 := by omega
          rw [hclose, depth?_close] at h
          rw [if_pos hclose, if_neg hd, hd']
          exact ih h (i + 1)
      · rw [depth?_cons hopen hclose] at h
        rw [if_neg hclose]
        exact ih h (i + 1)

/-- A neutral text between parentheses ends where they close. -/
theorem closing?_of_neutral (hu : IsNeutral u) (s v : List Char) :
    closing? (s ++ '(' :: (u ++ ')' :: v)) s.length = some (s.length + 1 + u.length) := by
  have hopen : closingFrom? 0 s.length ('(' :: (u ++ ')' :: v)) =
      closingFrom? (0 + 1) (s.length + 1) (u ++ ')' :: v) := rfl
  have h := closingFrom?_append (v := ')' :: v) (hu 0) (s.length + 1)
  rw [closing?, List.drop_left, hopen]
  simpa [closingFrom?] using h

/-! ## Items -/

theorem isNeutral_of_isPlain (h : ∀ x ∈ s, isPlain x = true) : IsNeutral s := by
  apply isNeutral_of_no_paren
  intro x hx
  constructor
  · rintro rfl
    exact not_mem_of_isPlain h (by decide) hx
  · rintro rfl
    exact not_mem_of_isPlain h (by decide) hx

theorem isNeutral_backquoted (w : Word) : IsNeutral (backquoted w.chars) := by
  have hquote : IsNeutral ['\x60'] := isNeutral_of_no_paren (by decide)
  exact hquote.append ((isNeutral_of_isPlain w.isPlain).append hquote)

theorem isNeutral_nameList (names : List Word) : IsNeutral (nameList names) := by
  apply isNeutral_of_no_paren
  intro x hx
  have hseparator : ∀ y ∈ [',', ' ', '\x60'], y ≠ '(' ∧ y ≠ ')' := by decide
  rcases mem_nameList hx with h | ⟨w, -, h⟩
  · exact hseparator x h
  · constructor
    · rintro rfl
      exact w.not_mem (by decide) h
    · rintro rfl
      exact w.not_mem (by decide) h

theorem ColumnDecl.isNeutral_line {c : ColumnDecl} (h : c.WellFormed) (hu : c.Unambiguous) :
    IsNeutral c.line := by
  have htype : IsNeutral c.typeText := by
    unfold typeText
    cases ha : c.arguments? with
    | none => exact isNeutral_of_isPlain c.type.isPlain
    | some a =>
      have hargument : IsNeutral a := isNeutral_of_no_paren fun x hx =>
        ⟨(h.arguments a ha x hx).1, (h.arguments a ha x hx).2.1⟩
      have hnil : IsNeutral [] := isNeutral_of_no_paren (by simp)
      simpa using (isNeutral_of_isPlain c.type.isPlain).append (hargument.enclose hnil)
  have hspace : IsNeutral [' '] := isNeutral_of_no_paren (by decide)
  have hcomment : IsNeutral c.commentPart := by
    unfold commentPart
    cases hc : c.comment? with
    | none => exact isNeutral_of_no_paren (by simp)
    | some k =>
      have hkeyword := isNeutral_of_isPlain k.keyword.isPlain
      have hquote : IsNeutral ['\''] := isNeutral_of_no_paren (by decide)
      have hquoted := hquote.append ((isNeutral_of_balanced (hu.balanced k hc)).append hquote)
      exact hspace.append (hkeyword.append (hspace.append hquoted))
  have hnull := isNeutral_of_isPlain c.nullity.isPlain
  have hrest := htype.append (hspace.append (hnull.append hcomment))
  exact hspace.append (hspace.append ((isNeutral_backquoted c.name).append (hspace.append hrest)))

theorem KeyClause.isNeutral_line (k : KeyClause) : IsNeutral k.line := by
  have hspace : IsNeutral [' '] := isNeutral_of_no_paren (by decide)
  have hkeyword := isNeutral_of_isPlain k.keyword.isPlain
  have hmethod := hspace.append (isNeutral_of_isPlain k.method.isPlain)
  have hlist := (isNeutral_nameList k.names).enclose hmethod
  exact hspace.append (hspace.append (hkeyword.append (hspace.append hlist)))

theorem IndexClause.isNeutral_line (i : IndexClause) : IsNeutral i.line := by
  have hspace : IsNeutral [' '] := isNeutral_of_no_paren (by decide)
  have hkeyword := isNeutral_of_isPlain i.keyword.isPlain
  have hmethod := hspace.append (isNeutral_of_isPlain i.method.isPlain)
  have hcolumn := (isNeutral_backquoted i.column).enclose hmethod
  exact hspace.append (hspace.append (hkeyword.append (hspace.append
    ((isNeutral_backquoted i.name).append hcolumn))))

theorem isNeutral_intercalate {sep : List Char} (hsep : IsNeutral sep) {items : List (List Char)}
    (h : ∀ l ∈ items, IsNeutral l) : IsNeutral (sep.intercalate items) := by
  induction items with
  | nil => exact isNeutral_of_no_paren (by simp)
  | cons l ls ih =>
    have hl := h l (by simp)
    have hls := ih fun x hx => h x (by simp [hx])
    cases ls with
    | nil => simpa using hl
    | cons m ms =>
      rw [List.intercalate_cons_cons]
      exact (hl.append hsep).append hls

end TableAtlas.Dump
