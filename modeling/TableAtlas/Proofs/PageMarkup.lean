import Mathlib.Data.List.Forall2
import TableAtlas.Proofs.PageData

/-!
# The markup of a page

Two pages are compared whose documents have the same shape and any texts. Their pieces stand in
pairs: the same markup in both pages, or a text in each. As escaped texts hold no delimiter, the
delimiters before the script element are those of the markup alone. The data in the script
element hold no angle bracket, so that both pages have the same angle brackets throughout.
-/

namespace TableAtlas

/-! ## Shapes of documents -/

structure Column.SameShape (c d : Column) : Prop where
  isPrimaryKey : c.isPrimaryKey = d.isPrimaryKey
  isNullable : c.isNullable = d.isNullable

structure TableNode.SameShape (t u : TableNode) : Prop where
  selected : t.selected = u.selected
  dimmed : t.dimmed = u.dimmed
  comment : t.comment.isEmpty = u.comment.isEmpty
  columns : List.Forall₂ Column.SameShape t.columns u.columns

structure Edge.SameShape (e f : Edge) : Prop where
  emphasized : e.emphasized = f.emphasized
  dimmed : e.dimmed = f.dimmed

/-- Whether two documents differ in nothing but the contents of their texts. Of a comment of a
table and of the selection it counts whether they are empty. -/
structure Document.SameShape (d e : Document) : Prop where
  selected : (d.selected.getD "").isEmpty = (e.selected.getD "").isEmpty
  tables : List.Forall₂ TableNode.SameShape d.tables e.tables
  relationships : List.Forall₂ Edge.SameShape d.relationships e.relationships

namespace Page

/-! ## Pieces in pairs -/

/-- Whether two pieces are the same markup or both texts. -/
inductive Piece.Alike : Piece → Piece → Prop
  | markup (s : String) : Alike (.markup s) (.markup s)
  | text (s t : String) : Alike (.text s) (.text t)

def AllAlike (ps qs : List Piece) : Prop := List.Forall₂ Piece.Alike ps qs

section AllAlike

variable {ps qs ps' qs' : List Piece}

@[simp] theorem allAlike_nil : AllAlike [] [] := .nil

@[simp] theorem allAlike_markup {s : String} :
    AllAlike (.markup s :: ps) (.markup s :: qs) ↔ AllAlike ps qs :=
  ⟨fun h => (List.forall₂_cons.1 h).2, .cons (.markup s)⟩

@[simp] theorem allAlike_mark {condition : Bool} {s : String} :
    AllAlike (mark condition s :: ps) (mark condition s :: qs) ↔ AllAlike ps qs :=
  allAlike_markup

@[simp] theorem allAlike_text {s t : String} :
    AllAlike (.text s :: ps) (.text t :: qs) ↔ AllAlike ps qs :=
  ⟨fun h => (List.forall₂_cons.1 h).2, .cons (.text s t)⟩

theorem AllAlike.append_iff (h : AllAlike ps qs) :
    AllAlike (ps ++ ps') (qs ++ qs') ↔ AllAlike ps' qs' := by
  induction h with
  | nil => rfl
  | cons hpq _ ih => exact ⟨fun h => ih.1 (List.forall₂_cons.1 h).2, fun h => .cons hpq (ih.2 h)⟩

theorem allAlike_flatMap {α : Type} {R : α → α → Prop} {f : α → List Piece}
    (hf : ∀ x y, R x y → AllAlike (f x) (f y)) {xs ys : List α} (h : List.Forall₂ R xs ys) :
    AllAlike (xs.flatMap f) (ys.flatMap f) := by
  induction h with
  | nil => exact .nil
  | cons hxy _ ih => exact (hf _ _ hxy).append_iff.2 ih

theorem filter_escape {ds : List Char} (hds : ds ⊆ delimiters) (s : List Char) :
    (escape s).filter ds.contains = [] := by
  rw [List.filter_eq_nil_iff]
  intro c hc hd
  exact not_mem_escape (hds (by simpa using hd)) s hc

/-- Pages of pieces that are alike have the same delimiters. -/
theorem AllAlike.filter_eq {ds : List Char} (hds : ds ⊆ delimiters) (h : AllAlike ps qs) :
    (renderAll ps).filter ds.contains = (renderAll qs).filter ds.contains := by
  induction h with
  | nil => rfl
  | cons hpq _ ih =>
    rw [renderAll_cons, renderAll_cons, List.filter_append, List.filter_append, ih]
    cases hpq with
    | markup s => rfl
    | text s t => rw [Piece.render, Piece.render, filter_escape hds, filter_escape hds]

end AllAlike

/-! ## The parts of two pages -/

theorem allAlike_styleRules :
    AllAlike (styleRules.flatMap StyleRule.pieces) (styleRules.flatMap StyleRule.pieces) := by
  have hrules : List.Forall₂ Eq styleRules styleRules := List.forall₂_eq_eq_eq ▸ rfl
  refine allAlike_flatMap (fun r r' hr => ?_) hrules
  subst hr
  simp [StyleRule.pieces, line]

theorem allAlike_headPieces (heading heading' : String) :
    AllAlike (headPieces heading) (headPieces heading') := by
  simp [headPieces, line, allAlike_styleRules.append_iff]

/-- The line that names the selected table stands in both summaries or in none. -/
theorem allAlike_summaryPieces {d e : Document} (h : d.SameShape e) :
    AllAlike (summaryPieces d) (summaryPieces e) := by
  have hselected := h.selected
  unfold summaryPieces
  simp only [summaryLine, line, List.cons_append, List.nil_append,
    allAlike_markup, allAlike_text]
  cases hd : d.selected <;> cases he : e.selected <;>
    simp only [hd, he, Option.getD_none, Option.getD_some] at hselected ⊢
  case none.none => simp
  case none.some t => simp [← hselected]
  case some.none s => simp [hselected]
  case some.some s t =>
    rw [hselected]
    split <;> simp

theorem allAlike_columnPieces {c d : Column} (h : c.SameShape d) :
    AllAlike (columnPieces c) (columnPieces d) := by
  simp [columnPieces, checkMark, line, h.isPrimaryKey, h.isNullable]

theorem allAlike_tablePieces {t u : TableNode} (h : t.SameShape u) :
    AllAlike (tablePieces t) (tablePieces u) := by
  have hcolumns := allAlike_flatMap (fun _ _ h => allAlike_columnPieces h) h.columns
  simp only [tablePieces, h.selected, h.dimmed, h.comment]
  cases u.comment.isEmpty <;> simp [line, hcolumns.append_iff]

theorem allAlike_edgePieces {e f : Edge} (h : e.SameShape f) :
    AllAlike (edgePieces e) (edgePieces f) := by
  simp [edgePieces, line, h.emphasized, h.dimmed]

theorem allAlike_edgeTablePieces {es fs : List Edge} (h : List.Forall₂ Edge.SameShape es fs) :
    AllAlike (edgeTablePieces es) (edgeTablePieces fs) := by
  have hedges := allAlike_flatMap (fun _ _ h => allAlike_edgePieces h) h
  simp [edgeTablePieces, line, hedges.append_iff]

theorem allAlike_beforeData (heading heading' : String) {d e : Document} (h : d.SameShape e) :
    AllAlike (beforeData heading d) (beforeData heading' e) := by
  have hhead := allAlike_headPieces heading heading'
  have hsummary := allAlike_summaryPieces h
  have htables := allAlike_flatMap (fun _ _ h => allAlike_tablePieces h) h.tables
  have hedges := allAlike_edgeTablePieces h.relationships
  simp [beforeData, visiblePieces, line, hhead.append_iff, hsummary.append_iff,
    htables.append_iff, hedges.append_iff]

/-! ## The parts of a page -/

/-- A page cut around the data that it carries: at the only tag that opens the script element, and
at the first tag behind that closes it. -/
structure DataCut (page : List Char) where
  front : List Char
  data : List Char
  back : List Char
  page_eq : page = front ++ (dataOpening.toList ++ (data ++ (dataClosing.toList ++ back)))
  opening_unique : ∀ u v, page = u ++ (dataOpening.toList ++ v) → u = front
  closing_first : ∀ u v, data ++ (dataClosing.toList ++ back) = u ++ (dataClosing.toList ++ v) →
    data.length ≤ u.length

def dataCut (title : Option String) (d : Document) : DataCut (render title d) where
  front := renderAll (beforeData (headingOf title d) d)
  data := d.toJson.scriptText
  back := renderAll afterData
  page_eq := render_eq title d
  opening_unique _ _ h := opening_unique (render_eq title d ▸ h)
  closing_first _ _ h := closing_first h

@[simp] theorem dataCut_front (title : Option String) (d : Document) :
    (dataCut title d).front = renderAll (beforeData (headingOf title d) d) := by
  rw [dataCut]

@[simp] theorem dataCut_data (title : Option String) (d : Document) :
    (dataCut title d).data = d.toJson.scriptText := by
  rw [dataCut]

def angles : List Char := ['<', '>']

theorem filter_angles_of_noMarkup {s : List Char} (h : Json.NoMarkup s) :
    s.filter angles.contains = [] := by
  rw [List.filter_eq_nil_iff]
  intro c hc hangle
  have hplain := h c hc
  simp only [angles, List.contains_eq_mem, List.mem_cons, List.not_mem_nil, or_false,
    decide_eq_true_eq] at hangle
  rcases hangle with rfl | rfl <;> cases hplain

/-- Texts change nothing in the markup of a page. The pages of two documents of the same shape have
the same delimiters in front of the script element and the same angle brackets throughout, and what
stands in the script element holds no character that is markup. -/
theorem render_markup_of_sameShape {d e : Document} (h : d.SameShape e)
    (title title' : Option String) :
    (dataCut title d).front.filter delimiters.contains =
        (dataCut title' e).front.filter delimiters.contains ∧
      (render title d).filter angles.contains = (render title' e).filter angles.contains ∧
      ∀ c ∈ ['<', '>', '&', '\''], c ∉ (dataCut title d).data ∧ c ∉ (dataCut title' e).data := by
  have hangles : angles ⊆ delimiters := by simp [angles, delimiters]
  have hfront := allAlike_beforeData (headingOf title d) (headingOf title' e) h
  have hdata : ∀ (j : Json) (c : Char), c ∈ ['<', '>', '&', '\''] → c ∉ j.scriptText := by
    intro j c hc hmem
    have hplain := Json.noMarkup_scriptText j c hmem
    simp only [List.mem_cons, List.not_mem_nil, or_false] at hc
    rcases hc with rfl | rfl | rfl | rfl <;> cases hplain
  simp only [dataCut_front, dataCut_data]
  -- the data of the two pages differ, but hold no angle bracket at all
  refine ⟨hfront.filter_eq (List.Subset.refl _), ?_, fun c hc => ⟨hdata _ c hc, hdata _ c hc⟩⟩
  simp only [render_eq, List.filter_append, hfront.filter_eq hangles,
    filter_angles_of_noMarkup (Json.noMarkup_scriptText _)]

/-- A document with one table, one column and an edge, all of whose texts are the same. -/
def uniformDocument (text : String) : Document where
  name := text
  selected := some text
  tables := [{
    id := text, name := text, comment := text
    columns := [⟨text, text, text, true, false⟩]
    primaryKeys := [text], position := ⟨0, 0⟩, selected := true, dimmed := false }]
  relationships := [⟨text, text, text, text, true, false⟩]

/-- Texts that would open and close elements and attributes. -/
theorem render_markup_of_uniformDocument :
    let d := uniformDocument "t"
    let e := uniformDocument "\"></script><script type=\"application/json\" id='diagram-data'>&"
    d.SameShape e ∧
      (dataCut none d).front.filter delimiters.contains =
        (dataCut (some "</title>") e).front.filter delimiters.contains ∧
      (render none d).filter angles.contains =
        (render (some "</title>") e).filter angles.contains ∧
      ∀ c ∈ ['<', '>', '&', '\''],
        c ∉ (dataCut none d).data ∧ c ∉ (dataCut (some "</title>") e).data := by
  intro d e
  have h : d.SameShape e := {
    selected := by decide
    tables := .cons ⟨rfl, rfl, by decide, .cons ⟨rfl, rfl⟩ .nil⟩ .nil
    relationships := .cons ⟨rfl, rfl⟩ .nil }
  exact ⟨h, render_markup_of_sameShape h none (some "</title>")⟩

end Page

end TableAtlas
