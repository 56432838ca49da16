import TableAtlas.Dump.ColumnLine
import TableAtlas.Proofs.Boundary

/-!
# Where two texts are joined by a line break

The lines of a text with a break in it are not the lines of the two parts. A part that ends in a
break of its own leaves an empty line behind it, and a carriage return and a line feed that meet at
a seam are one break. All that appears or vanishes at a seam are empty lines, and an empty line
declares nothing, so the columns of the two parts are read apart.
-/

namespace TableAtlas.Dump

open Text

/-- The texts that end a line. -/
def lineSeparators : List (List Char) :=
  [['\n'], ['\r'], ['\r', '\n'], ['\x0b'], ['\x0c'], ['\x1c'], ['\x1d'], ['\x1e'], ['\u0085'],
    ['\u2028'], ['\u2029']]

/-- A separator is a run of breaks. -/
theorem isLineBreak_of_mem_lineSeparators :
    ∀ sep ∈ lineSeparators, sep ≠ [] ∧ ∀ c ∈ sep, isLineBreak c = true := by
  decide

/-- Where an empty line yields nothing, lines can be cut at every single character of a break. -/
theorem filterMap_linesFrom {α : Type} {f : List Char → Option α} (hnil : f [] = none)
    {pending : List Char} (hp : ∀ x ∈ pending, isLineBreak x = false) (s : List Char) :
    (linesFrom pending s).filterMap f =
      ((pending.reverse ++ s).splitOnP isLineBreak).filterMap f := by
  have hsplit : ∀ {p : List Char}, (∀ x ∈ p, isLineBreak x = false) → ∀ {c : Char},
      isLineBreak c = true → ∀ cs, (p.reverse ++ c :: cs).splitOnP isLineBreak =
        p.reverse :: cs.splitOnP isLineBreak := fun hp _ hc cs =>
    List.splitOnP_append_cons_of_forall_mem (by simpa using hp) _ hc cs
  fun_induction linesFrom pending s with
  | case1 pending hempty =>
    obtain rfl := List.isEmpty_iff.1 hempty
    simp [hnil]
  | case2 pending hempty =>
    rw [List.append_nil, List.splitOnP_eq_singleton (by simpa using hp)]
  | case3 pending cs ih =>
    have hempty : ('\n' :: cs).splitOnP isLineBreak = [] :: cs.splitOnP isLineBreak :=
      hsplit (p := []) (by simp) (by decide) cs
    rw [hsplit hp (by decide), hempty, List.filterMap_cons, List.filterMap_cons, ih (by simp),
      List.filterMap_cons_none hnil]
    rfl
  | case4 pending c cs hcs hc ih =>
    rw [hsplit hp hc, List.filterMap_cons, List.filterMap_cons, ih (by simp)]
    rfl
  | case5 pending c cs hcs hc ih =>
    rw [ih (by simpa [hc] using hp)]
    simp

theorem columns_eq (keys : List String) (s : List Char) :
    columns keys s = (s.splitOnP isLineBreak).filterMap (columnOfLine? keys) :=
  filterMap_linesFrom (columnOfLine?_nil keys) (by simp) s

/-- The columns on both sides of a break are read apart. -/
theorem columns_append_cons {c : Char} (hc : isLineBreak c = true) (keys : List String)
    (u v : List Char) : columns keys (u ++ c :: v) = columns keys u ++ columns keys v := by
  simp only [columns_eq, List.splitOnP_append_cons u v hc, List.filterMap_append]

theorem columns_append_breaks {e : List Char} (he : ∀ c ∈ e, isLineBreak c = true)
    (keys : List String) (u : List Char) : columns keys (u ++ e) = columns keys u := by
  induction e generalizing u with
  | nil => rw [List.append_nil]
  | cons c e ih =>
    have hrest : columns keys e = [] := ih (fun x hx => he x (by simp [hx])) []
    rw [columns_append_cons (he c (by simp)), hrest, List.append_nil]

theorem columns_line {l : List Char} (hl : ∀ x ∈ l, isLineBreak x = false) (keys : List String) :
    columns keys l = (columnOfLine? keys l).toList := by
  rw [columns_eq, List.splitOnP_eq_singleton hl]
  cases h : columnOfLine? keys l <;> simp [h]

theorem columns_breaks_append {e : List Char} (he : ∀ c ∈ e, isLineBreak c = true)
    (keys : List String) (v : List Char) : columns keys (e ++ v) = columns keys v := by
  induction e with
  | nil => rfl
  | cons c e ih =>
    have hfront := columns_append_cons (he c (by simp)) keys [] (e ++ v)
    rw [List.nil_append, columns_nil, List.nil_append] at hfront
    rw [List.cons_append, hfront, ih fun x hx => he x (by simp [hx])]

/-- Breaks between two texts, one or more of them, keep their columns apart. -/
theorem columns_append_breaks_append {e : List Char} (hne : e ≠ [])
    (he : ∀ c ∈ e, isLineBreak c = true) (keys : List String) (u v : List Char) :
    columns keys (u ++ e ++ v) = columns keys u ++ columns keys v := by
  obtain ⟨c, e, rfl⟩ := List.exists_cons_of_ne_nil hne
  have hrest : ∀ x ∈ e, isLineBreak x = true := fun x hx => he x (by simp [hx])
  rw [List.append_assoc, List.cons_append, columns_append_cons (he c (by simp)),
    columns_breaks_append hrest]

/-- Columns are read line by line: those of two texts with a separator between them are the columns
of the one and then those of the other, whatever stands at the seam, and a line gives the column
that it declares, if any. -/
theorem columns_read_line_by_line (keys : List String) :
    (∀ sep ∈ lineSeparators, ∀ a b : List Char,
      columns keys (a ++ sep ++ b) = columns keys a ++ columns keys b) ∧
    ∀ l : List Char, (∀ c ∈ l, isLineBreak c = false) →
      columns keys l = (columnOfLine? keys l).toList := by
  constructor
  · intro sep hsep a b
    obtain ⟨hne, hbreaks⟩ := isLineBreak_of_mem_lineSeparators sep hsep
    exact columns_append_breaks_append hne hbreaks keys a b
  · intro l hl
    exact columns_line hl keys

/-- A separator that is one break together with the beginning of the text behind it. The empty line
in front of that text is gone, and the columns stay the same. -/
theorem columns_read_line_by_line_at_fused_break :
    let a := "k int,".toList
    let b := "\nv text".toList
    ['\r'] ∈ lineSeparators ∧ lines (a ++ ['\r'] ++ b) ≠ lines a ++ lines b ∧
      columns ["k"] (a ++ ['\r'] ++ b) = columns ["k"] a ++ columns ["k"] b ∧
        (∀ c ∈ a, isLineBreak c = false) ∧
          columns ["k"] a = (columnOfLine? ["k"] a).toList ∧
            columns ["k"] a = [⟨"k", "int", "", true, true⟩] := by
  intro a b
  have hsep : ['\r'] ∈ lineSeparators := by decide
  have hbreak : ∀ c ∈ a, isLineBreak c = false := by decide
  obtain ⟨hseam, hline⟩ := columns_read_line_by_line ["k"]
  exact ⟨hsep, by decide, hseam _ hsep a b, hbreak, hline a hbreak, by decide +kernel⟩

end TableAtlas.Dump
