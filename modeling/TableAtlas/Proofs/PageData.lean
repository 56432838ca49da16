import TableAtlas.Page.Diagram
import TableAtlas.Proofs.DocumentReading
import TableAtlas.Proofs.JsonReading

/-!
# The document in its page

The text of the script element has no markup in it, so that the first closing tag behind it is
its own. The opening tag stands nowhere else: no other markup of a page goes on as the tag does,
and what is escaped has none of the tag's angle brackets. So the document is found in the page
by looking for two fixed marks, whatever its texts are.
-/

namespace TableAtlas

namespace Json

open Text

/-! ## Script elements without markup -/

def NoMarkup (s : List Char) : Prop := ∀ c ∈ s, isMarkup c = false

theorem noMarkup_append {s t : List Char} : NoMarkup (s ++ t) ↔ NoMarkup s ∧ NoMarkup t :=
  List.forall_mem_append

theorem noMarkup_cons {c : Char} {s : List Char} :
    NoMarkup (c :: s) ↔ isMarkup c = false ∧ NoMarkup s :=
  List.forall_mem_cons

theorem noMarkup_hex (width n : Nat) : NoMarkup (hex width n) := by
  have hdigit : ∀ d : Fin 16, isMarkup (Nat.digitChar d) = false := by decide
  induction width generalizing n with
  | zero => simp [NoMarkup, hex]
  | succ width ih =>
    refine noMarkup_append.2 ⟨ih (n / 16), ?_⟩
    simpa [NoMarkup] using hdigit ⟨n % 16, Nat.mod_lt n (by decide)⟩

theorem noMarkup_unitEscape (n : Nat) : NoMarkup (unitEscape n) :=
  noMarkup_cons.2 ⟨by decide, noMarkup_cons.2 ⟨by decide, noMarkup_hex 4 n⟩⟩

theorem noMarkup_requiredEscape {c : Char} {e : List Char} (h : requiredEscape? c = some e) :
    NoMarkup e := by
  unfold requiredEscape? at h
  split at h
  case h_8 =>
    split at h
    · obtain rfl := Option.some.inj h
      exact noMarkup_unitEscape _
    · cases h
  all_goals
    obtain rfl := Option.some.inj h
    unfold NoMarkup
    decide

theorem noMarkup_scriptChar (c : Char) : NoMarkup (scriptChar c) := by
  unfold scriptChar
  cases h : requiredEscape? c with
  | some e => exact noMarkup_requiredEscape h
  | none =>
    rw [Option.getD_none]
    split
    case isTrue hplain =>
      simp only [Bool.and_eq_true, Bool.not_eq_true'] at hplain
      simpa [NoMarkup] using hplain.2
    case isFalse =>
      unfold codeEscape
      split
      · exact noMarkup_unitEscape _
      · exact noMarkup_append.2 ⟨noMarkup_unitEscape _, noMarkup_unitEscape _⟩

theorem noMarkup_signedDecimal (n : Int) : NoMarkup (signedDecimal n) := by
  have hdigits : NoMarkup (decimal n.natAbs) := by
    intro c hc
    by_contra h
    simp only [isMarkup, Bool.not_eq_false, Bool.or_eq_true, decide_eq_true_eq] at h
    have hdigit := isDigit_of_mem_decimal c hc
    rcases h with ((rfl | rfl) | rfl) | rfl <;> cases hdigit
  unfold signedDecimal
  split
  · exact noMarkup_cons.2 ⟨by decide, hdigits⟩
  · exact hdigits

theorem noMarkup_writeString (s : String) : NoMarkup (writeString scriptChar s) := by
  refine noMarkup_cons.2 ⟨by decide, noMarkup_append.2 ⟨?_, by simp [NoMarkup, isMarkup]⟩⟩
  intro c hc
  obtain ⟨d, -, hd⟩ := List.mem_flatMap.1 hc
  exact noMarkup_scriptChar d c hd

mutual

theorem noMarkup_write (x : Json) : NoMarkup (write scriptChar x) := by
  cases x with
  | null => unfold NoMarkup; decide
  | bool b => cases b <;> (unfold NoMarkup; decide)
  | number n => exact noMarkup_signedDecimal n
  | string s => exact noMarkup_writeString s
  | array xs =>
    exact noMarkup_cons.2 ⟨by decide, noMarkup_append.2 ⟨noMarkup_writeItems xs,
      by simp [NoMarkup, isMarkup]⟩⟩
  | object fields =>
    exact noMarkup_cons.2 ⟨by decide, noMarkup_append.2 ⟨noMarkup_writeFields fields,
      by simp [NoMarkup, isMarkup]⟩⟩

theorem noMarkup_writeItems (xs : List Json) : NoMarkup (writeItems scriptChar xs) := by
  match xs with
  | [] => simp [NoMarkup, writeItems]
  | [x] => exact noMarkup_write x
  | x :: y :: ys =>
    exact noMarkup_append.2 ⟨noMarkup_write x, noMarkup_cons.2 ⟨by decide,
      noMarkup_cons.2 ⟨by decide, noMarkup_writeItems (y :: ys)⟩⟩⟩

theorem noMarkup_writeFields (fields : List (String × Json)) :
    NoMarkup (writeFields scriptChar fields) := by
  match fields with
  | [] => simp [NoMarkup, writeFields]
  | [(name, x)] =>
    exact noMarkup_append.2 ⟨noMarkup_writeString name, noMarkup_cons.2 ⟨by decide,
      noMarkup_cons.2 ⟨by decide, noMarkup_write x⟩⟩⟩
  | (name, x) :: y :: fields =>
    exact noMarkup_append.2 ⟨noMarkup_writeString name, noMarkup_cons.2 ⟨by decide,
      noMarkup_cons.2 ⟨by decide, noMarkup_append.2 ⟨noMarkup_write x, noMarkup_cons.2 ⟨by decide,
        noMarkup_cons.2 ⟨by decide, noMarkup_writeFields (y :: fields)⟩⟩⟩⟩⟩⟩

end

theorem noMarkup_scriptText (j : Json) : NoMarkup (scriptText j) := noMarkup_write j.sorted

theorem bracket_not_mem_scriptText (j : Json) : '<' ∉ j.scriptText := fun h =>
  absurd (noMarkup_scriptText j '<' h) (by decide)

end Json

namespace Page

/-! ## Texts that avoid a mark -/

section Avoids

variable {w s t : List Char}

/-- Whether no part at the end of `s` goes on as `w`, whatever stands behind `s`. -/
def Avoids (w s : List Char) : Prop := ∀ v, v <:+ s → v ≠ [] → ¬ v <+: w ∧ ¬ w <+: v

instance : Decidable (Avoids w s) :=
  decidable_of_iff (∀ v ∈ s.tails, v ≠ [] → ¬ v <+: w ∧ ¬ w <+: v) (by simp [Avoids])

theorem avoids_nil (w : List Char) : Avoids w [] := by
  intro v hv hne
  exact absurd (List.suffix_nil.1 hv) hne

theorem avoids_append (hs : Avoids w s) (ht : Avoids w t) : Avoids w (s ++ t) := by
  rintro v ⟨u, huv⟩ hne
  rcases List.append_eq_append_iff.1 huv with ⟨a, ha, hv⟩ | ⟨a, -, hv⟩
  · subst hv
    rcases List.eq_nil_or_concat a with rfl | ⟨_, _, rfl⟩
    · exact ht t (List.suffix_refl t) hne
    · have hstart := hs _ ⟨u, ha.symm⟩ (by simp)
      refine ⟨fun h => hstart.1 ((List.prefix_append _ t).trans h), fun h => ?_⟩
      rcases List.prefix_or_prefix_of_prefix h (List.prefix_append _ t) with hw | hw
      · exact hstart.2 hw
      · exact hstart.1 hw
  · exact ht v ⟨a, hv.symm⟩ hne

theorem avoids_of_not_mem {d : Char} (h : d ∉ s) : Avoids (d :: w) s := by
  intro v hv hne
  obtain ⟨c, v, rfl⟩ := List.exists_cons_of_ne_nil hne
  have hd : d ≠ c := by
    rintro rfl
    exact h (hv.subset List.mem_cons_self)
  constructor
  · intro hprefix
    exact hd (List.cons_prefix_cons.1 hprefix).1.symm
  · intro hprefix
    exact hd (List.cons_prefix_cons.1 hprefix).1

/-- What avoids the beginning of a mark avoids the mark. -/
theorem Avoids.of_isPrefix {m : List Char} (h : Avoids m s) (hm : m <+: w) : Avoids w s := by
  intro v hv hne
  obtain ⟨hshort, hlong⟩ := h v hv hne
  constructor
  · intro hvw
    rcases List.prefix_or_prefix_of_prefix hvw hm with hvm | hmv
    · exact hshort hvm
    · exact hlong hmv
  · intro hwv
    exact hlong (hm.trans hwv)

/-- A mark between texts that avoid it stands nowhere else. -/
theorem eq_of_avoids {front back u v : List Char} (hfront : Avoids w front)
    (hback : Avoids w (w.tail ++ back)) (hne : w ≠ [])
    (h : front ++ (w ++ back) = u ++ (w ++ v)) : u = front := by
  obtain ⟨d, m, rfl⟩ := List.exists_cons_of_ne_nil hne
  rcases List.append_eq_append_iff.1 h with ⟨a, rfl, ha⟩ | ⟨a, rfl, ha⟩
  · cases a with
    | nil => simp
    | cons c a =>
      -- An occurrence behind the first character of the mark would be one in what follows it.
      have hrest : m ++ back = a ++ (d :: m ++ v) := (List.cons.inj ha).2
      exact absurd (List.prefix_append _ v) (hback _ ⟨a, hrest.symm⟩ (by simp)).2
  · rcases List.eq_nil_or_concat a with rfl | ⟨_, _, rfl⟩
    · simp
    · have hstart := hfront _ (List.suffix_append u _) (by simp)
      rcases List.prefix_or_prefix_of_prefix (List.prefix_append _ v) ⟨_, ha.symm⟩ with hw | hw
      · exact absurd hw hstart.2
      · exact absurd hw hstart.1

end Avoids

/-! ## The parts of a page -/

/-- How the tag that opens the script element begins, and no other tag. -/
def tagStart : List Char := ['<', 's', 'c']

/-- Whether pieces avoid the tag that opens the script element. -/
def Quiet (ps : List Piece) : Prop := ∀ p ∈ ps, Avoids tagStart p.render

theorem quiet_nil : Quiet [] := by simp [Quiet]

theorem quiet_append {ps qs : List Piece} : Quiet (ps ++ qs) ↔ Quiet ps ∧ Quiet qs :=
  List.forall_mem_append

theorem quiet_cons {p : Piece} {ps : List Piece} :
    Quiet (p :: ps) ↔ Avoids tagStart p.render ∧ Quiet ps :=
  List.forall_mem_cons

theorem quiet_flatMap {α : Type} {f : α → List Piece} {xs : List α} (h : ∀ x ∈ xs, Quiet (f x)) :
    Quiet (xs.flatMap f) := by
  intro p hp
  obtain ⟨x, hx, hp⟩ := List.mem_flatMap.1 hp
  exact h x hx p hp

theorem quiet_ite {ps : List Piece} (h : Quiet ps) (condition : Bool) :
    Quiet (if condition then [] else ps) := by
  cases condition
  · exact h
  · exact quiet_nil

theorem avoids_text (s : String) : Avoids tagStart (Piece.text s).render :=
  avoids_of_not_mem (not_mem_escape (by decide) s.toList)

/-- The characters of a literal, which need not be decoded this way. -/
theorem toList_eq {s : String} {l : List Char} (h : String.ofList l = s) : s.toList = l := by
  rw [← h, String.toList_ofList]

theorem avoids_markup {s : String} {l : List Char} (hs : String.ofList l = s)
    (h : Avoids tagStart l) : Avoids tagStart (Piece.markup s).render := by
  rwa [Piece.render, toList_eq hs]

theorem avoids_markup_append {s t : String} (hs : Avoids tagStart (Piece.markup s).render)
    (ht : Avoids tagStart (Piece.markup t).render) :
    Avoids tagStart (Piece.markup (s ++ t)).render := by
  rw [Piece.render, String.toList_append]
  exact avoids_append hs ht

theorem avoids_mark {s : String} {l : List Char} (hs : String.ofList l = s)
    (h : Avoids tagStart l) (condition : Bool) : Avoids tagStart (mark condition s).render := by
  cases condition
  · exact avoids_nil _
  · exact avoids_markup hs h

theorem toList_pushn (s : String) (c : Char) (n : Nat) :
    (s.pushn c n).toList = s.toList ++ List.replicate n c := by
  induction n with
  | zero => simp [String.pushn, Nat.repeat]
  | succ n ih =>
    have hstep : s.pushn c (n + 1) = (s.pushn c n).push c := rfl
    rw [hstep, String.toList_push, ih, List.replicate_succ', List.append_assoc]

theorem avoids_indentation (indent : Nat) :
    Avoids tagStart (Piece.markup ("".pushn ' ' indent)).render := by
  refine avoids_of_not_mem ?_
  rw [Piece.render, toList_pushn]
  simp

theorem quiet_line {indent : Nat} {ps : List Piece} : Quiet (line indent ps) ↔ Quiet ps := by
  have hbreak : Avoids tagStart (Piece.markup "\n").render := avoids_markup rfl (by decide)
  simp [line, quiet_cons, quiet_append, quiet_nil, avoids_indentation, hbreak]

theorem quiet_styleRules : Quiet (styleRules.flatMap StyleRule.pieces) := by
  refine quiet_flatMap fun r hr => quiet_line.2 (quiet_cons.2 ⟨?_, quiet_nil⟩)
  have hparts : Avoids tagStart (Piece.markup r.selector).render ∧
      Avoids tagStart (Piece.markup r.declarations).render := by
    revert r
    simp only [styleRules, List.forall_mem_cons, List.not_mem_nil, false_implies, implies_true,
      and_true]
    and_intros <;> exact avoids_markup rfl (by decide)
  exact avoids_markup_append (avoids_markup_append (avoids_markup_append hparts.1
    (avoids_markup rfl (by decide))) hparts.2) (avoids_markup rfl (by decide))

theorem quiet_headPieces (heading : String) : Quiet (headPieces heading) := by
  simp only [headPieces, quiet_append, quiet_line, quiet_cons, quiet_nil, avoids_text,
    quiet_styleRules, true_and, and_true]
  and_intros <;> exact avoids_markup rfl (by decide)

theorem quiet_summaryLine {label : String} (h : Avoids tagStart (Piece.markup label).render)
    (value : String) : Quiet (summaryLine label value) := by
  simp only [summaryLine, quiet_line, quiet_cons, quiet_nil, avoids_text, true_and, and_true]
  constructor
  · exact avoids_markup_append (avoids_markup_append (avoids_markup rfl (by decide)) h)
      (avoids_markup rfl (by decide))
  · exact avoids_markup rfl (by decide)

theorem quiet_summaryPieces (d : Document) : Quiet (summaryPieces d) := by
  simp only [summaryPieces, quiet_append, quiet_line, quiet_cons, quiet_nil, and_true]
  refine ⟨⟨?_, ?_⟩, avoids_markup rfl (by decide)⟩
  · and_intros <;> first
      | exact avoids_markup rfl (by decide)
      | exact quiet_summaryLine (avoids_markup rfl (by decide)) _
  · cases d.selected with
    | none => exact quiet_nil
    | some s => exact quiet_ite (quiet_summaryLine (avoids_markup rfl (by decide)) s) s.isEmpty

theorem quiet_columnPieces (c : Column) : Quiet (columnPieces c) := by
  simp only [columnPieces, checkMark, quiet_append, quiet_line, quiet_cons, quiet_nil, avoids_text,
    true_and, and_true]
  and_intros <;> first
    | exact avoids_markup rfl (by decide)
    | exact avoids_mark rfl (by decide) _

theorem quiet_tablePieces (t : TableNode) : Quiet (tablePieces t) := by
  have hcomment : Quiet (line 12 [.markup "<div class=\"comment\">", .text t.comment,
      .markup "</div>"]) := by
    simp only [quiet_line, quiet_cons, quiet_nil, avoids_text, true_and, and_true]
    and_intros <;> exact avoids_markup rfl (by decide)
  have hcolumns : Quiet (t.columns.flatMap columnPieces) :=
    quiet_flatMap fun c _ => quiet_columnPieces c
  simp only [tablePieces, quiet_append, quiet_line, quiet_cons, quiet_nil, avoids_text,
    quiet_ite hcomment, hcolumns, true_and, and_true]
  and_intros <;> first
    | exact avoids_markup rfl (by decide)
    | exact avoids_mark rfl (by decide) _
    | exact avoids_markup_append (avoids_markup rfl (by decide)) (avoids_markup rfl (by decide))

theorem quiet_edgePieces (e : Edge) : Quiet (edgePieces e) := by
  simp only [edgePieces, quiet_append, quiet_line, quiet_cons, quiet_nil, avoids_text, true_and,
    and_true]
  and_intros <;> first
    | exact avoids_markup rfl (by decide)
    | exact avoids_mark rfl (by decide) _

theorem quiet_edgeTablePieces (es : List Edge) : Quiet (edgeTablePieces es) := by
  have hedges : Quiet (es.flatMap edgePieces) := quiet_flatMap fun e _ => quiet_edgePieces e
  simp only [edgeTablePieces, quiet_append, quiet_line, quiet_cons, quiet_nil, hedges, and_true]
  and_intros <;> exact avoids_markup rfl (by decide)

/-- Nothing before the script element goes on as its opening tag. -/
theorem quiet_visiblePieces (heading : String) (d : Document) :
    Quiet (visiblePieces heading d) := by
  have htables : Quiet (d.tables.flatMap tablePieces) :=
    quiet_flatMap fun t _ => quiet_tablePieces t
  simp only [visiblePieces, quiet_append, quiet_line, quiet_cons, quiet_nil, avoids_text,
    quiet_headPieces, quiet_summaryPieces, htables, quiet_edgeTablePieces, true_and, and_true]
  and_intros <;> exact avoids_markup rfl (by decide)

/-! ## The document as data -/

/-- What stands before the script element. -/
def beforeData (heading : String) (d : Document) : List Piece :=
  visiblePieces heading d ++ [.markup ("".pushn ' ' 4)]

/-- What stands behind the script element. -/
def afterData : List Piece :=
  .markup "\n" :: (line 0 [.markup "</body>"] ++ [.markup "</html>"])

theorem pieces_eq (heading : String) (d : Document) (data : Json) :
    pieces heading d data = beforeData heading d ++
      .markup dataOpening :: .data data :: .markup dataClosing :: afterData := by
  simp [pieces, dataPieces, beforeData, afterData, line]

theorem renderAll_cons (p : Piece) (ps : List Piece) :
    renderAll (p :: ps) = p.render ++ renderAll ps := List.flatMap_cons

theorem render_eq (title : Option String) (d : Document) :
    render title d = renderAll (beforeData (headingOf title d) d) ++ (dataOpening.toList ++
      (d.toJson.scriptText ++ (dataClosing.toList ++ renderAll afterData))) := by
  simp only [render, pieces_eq, renderAll_append, renderAll_cons, Piece.render]

theorem quiet_beforeData (heading : String) (d : Document) : Quiet (beforeData heading d) :=
  quiet_append.2 ⟨quiet_visiblePieces heading d, quiet_cons.2 ⟨avoids_indentation 4, quiet_nil⟩⟩

theorem quiet_afterData : Quiet (.markup dataClosing :: afterData) := by
  simp only [afterData, quiet_append, quiet_line, quiet_cons, quiet_nil, and_true]
  and_intros <;> exact avoids_markup rfl (by decide)

theorem avoids_renderAll {ps : List Piece} (h : Quiet ps) : Avoids tagStart (renderAll ps) := by
  induction ps with
  | nil => exact avoids_nil _
  | cons p ps ih =>
    obtain ⟨hp, hps⟩ := quiet_cons.1 h
    exact avoids_append hp (ih hps)

theorem exists_dataOpening :
    ∃ m, dataOpening.toList = tagStart ++ m ∧ '<' ∉ (tagStart ++ m).tail :=
  ⟨_, toList_eq rfl, by decide⟩

theorem exists_dataClosing : ∃ m, dataClosing.toList = '<' :: m := ⟨_, toList_eq rfl⟩

theorem opening_unique {heading : String} {d : Document} {j : Json} {u v : List Char}
    (h : renderAll (beforeData heading d) ++ (dataOpening.toList ++
      (j.scriptText ++ (dataClosing.toList ++ renderAll afterData))) =
      u ++ (dataOpening.toList ++ v)) : u = renderAll (beforeData heading d) := by
  obtain ⟨m, hm, hbracket⟩ := exists_dataOpening
  have hstart : tagStart <+: dataOpening.toList := ⟨m, hm.symm⟩
  have hfront := avoids_renderAll (quiet_beforeData heading d)
  have htail : Avoids tagStart dataOpening.toList.tail := avoids_of_not_mem (hm ▸ hbracket)
  have htext : Avoids tagStart j.scriptText := avoids_of_not_mem j.bracket_not_mem_scriptText
  have hafter := avoids_renderAll quiet_afterData
  rw [renderAll_cons, Piece.render] at hafter
  refine eq_of_avoids (hfront.of_isPrefix hstart) ?_ (by simp [hm, tagStart]) h
  exact (avoids_append htail (avoids_append htext hafter)).of_isPrefix hstart

theorem length_le_of_not_mem {c : Char} {s t u v : List Char} (hs : c ∉ s)
    (h : s ++ t = u ++ c :: v) : s.length ≤ u.length := by
  rcases List.append_eq_append_iff.1 h with ⟨a, rfl, -⟩ | ⟨a, rfl, ha⟩
  · simp
  · cases a with
    | nil => simp
    | cons b a =>
      obtain ⟨rfl, -⟩ := List.cons.inj ha
      simp at hs

theorem closing_first {j : Json} {u v : List Char}
    (h : j.scriptText ++ (dataClosing.toList ++ renderAll afterData) =
      u ++ (dataClosing.toList ++ v)) : j.scriptText.length ≤ u.length := by
  obtain ⟨m, hm⟩ := exists_dataClosing
  simp only [hm, List.cons_append] at h
  exact length_le_of_not_mem j.bracket_not_mem_scriptText h

/-- A document is read back from its page: the tag that opens the script element stands there
once, and from there to the first closing tag stands the value of the document. -/
theorem render_carries_document (title : Option String) (d : Document) :
    ∃ front text back : List Char,
      render title d = front ++ (dataOpening.toList ++ (text ++ (dataClosing.toList ++ back))) ∧
      (∀ u v, render title d = u ++ (dataOpening.toList ++ v) → u = front) ∧
      (∀ u v, text ++ (dataClosing.toList ++ back) = u ++ (dataClosing.toList ++ v) →
        text.length ≤ u.length) ∧
      Json.read? text = some d.toJson.sorted ∧
      (Json.read? text).bind Document.ofJson? = some d := by
  have hpage := render_eq title d
  have hread := Json.read?_scriptText d.toJson
  refine ⟨_, _, _, hpage, ?_, ?_, hread, ?_⟩
  · intro u v h
    exact opening_unique (hpage ▸ h)
  · intro u v h
    exact closing_first h
  · rw [hread, Option.bind_some, d.ofJson?_sorted]

end Page

end TableAtlas
