/-!
# Lines

A text is cut into lines at every line break: line feed, carriage return, the two together,
vertical tab, form feed, the separators U+001C to U+001E, next line, and the line and paragraph
separators. A break ends a line, so a text that ends in one has no empty last line.
-/

namespace TableAtlas.Text

def isLineBreak (c : Char) : Bool :=
  c ∈ ['\n', '\r', '\x0b', '\x0c', '\x1c', '\x1d', '\x1e', '\u0085', '\u2028', '\u2029']

/-- The lines of a text behind the characters, in reverse, of a line already begun. -/
def linesFrom (pending : List Char) : List Char → List (List Char)
  | [] => if pending.isEmpty then [] else [pending.reverse]
  | '\r' :: '\n' :: cs => pending.reverse :: linesFrom [] cs
  | c :: cs =>
    if isLineBreak c then pending.reverse :: linesFrom [] cs else linesFrom (c :: pending) cs

def lines (s : List Char) : List (List Char) := linesFrom [] s

/-- The text with every carriage return, alone or before a line feed, read as a line feed. -/
def unifyBreaks : List Char → List Char
  | [] => []
  | '\r' :: '\n' :: cs => '\n' :: unifyBreaks cs
  | c :: cs => (if c = '\r' then '\n' else c) :: unifyBreaks cs

/-- No line holds a break. -/
theorem isLineBreak_eq_false_of_mem_linesFrom {pending s l : List Char}
    (hp : ∀ c ∈ pending, isLineBreak c = false) (h : l ∈ linesFrom pending s) :
    ∀ c ∈ l, isLineBreak c = false := by
  fun_induction linesFrom pending s with
  | case1 pending hempty => simp at h
  | case2 pending hempty => simp_all
  | case3 pending cs ih =>
    rcases List.mem_cons.1 h with rfl | h
    · simpa using hp
    · exact ih (by simp) h
  | case4 pending c cs hcs hc ih =>
    rcases List.mem_cons.1 h with rfl | h
    · simpa using hp
    · exact ih (by simp) h
  | case5 pending c cs hcs hc ih =>
    refine ih ?_ h
    intro d hd
    rcases List.mem_cons.1 hd with rfl | hd
    · simpa using hc
    · exact hp d hd

end TableAtlas.Text
