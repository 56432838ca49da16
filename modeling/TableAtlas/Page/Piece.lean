import TableAtlas.Json.Writer

/-!
# Pieces of a page

A page is a list of pieces. Markup stands in the page as it is, a text is escaped, and data go
into a script element as JSON. So texts and data add no markup of their own.
-/

namespace TableAtlas.Page

open Text

inductive Piece where
  | markup (s : String)
  | text (s : String)
  | data (j : Json)

def escapeChar (c : Char) : List Char :=
  match c with
  | '&' => "&amp;".toList
  | '<' => "&lt;".toList
  | '>' => "&gt;".toList
  | '"' => "&#34;".toList
  | '\'' => "&#39;".toList
  | c => [c]

def escape (s : List Char) : List Char := s.flatMap escapeChar

def Piece.render : Piece → List Char
  | markup s => s.toList
  | text s => escape s.toList
  | data j => j.scriptText

def renderAll (ps : List Piece) : List Char := ps.flatMap Piece.render

/-- A line of pieces behind an indentation. -/
def line (indent : Nat) (ps : List Piece) : List Piece :=
  .markup ("".pushn ' ' indent) :: (ps ++ [.markup "\n"])

/-- Markup that stands only where a condition holds. -/
def mark (condition : Bool) (s : String) : Piece := .markup (if condition then s else "")

/-- Characters that begin or end markup, or the value of an attribute. -/
def delimiters : List Char := ['<', '>', '"', '\'']

theorem not_mem_escapeChar {d : Char} (h : d ∈ delimiters) (c : Char) : d ∉ escapeChar c := by
  simp only [delimiters, List.mem_cons, List.not_mem_nil, or_false] at h
  unfold escapeChar
  split
  case h_6 hlt hgt hquote hapostrophe =>
    rw [List.mem_singleton]
    rintro rfl
    rcases h with h | h | h | h
    · exact hlt h
    · exact hgt h
    · exact hquote h
    · exact hapostrophe h
  all_goals rcases h with rfl | rfl | rfl | rfl <;> decide

theorem not_mem_escape {d : Char} (h : d ∈ delimiters) (s : List Char) : d ∉ escape s := by
  simp [escape, not_mem_escapeChar h]

@[simp] theorem renderAll_append (ps qs : List Piece) :
    renderAll (ps ++ qs) = renderAll ps ++ renderAll qs := by
  simp [renderAll]

end TableAtlas.Page
