import TableAtlas.Text.Ranges

/-!
# Blanks

Blanks separate the words of a dump. They are the characters of Unicode's white space together
with the four information separators U+001C to U+001F. Trimming removes blanks, or any other
class of characters, from both ends of a text and leaves its inside alone.
-/

namespace TableAtlas.Text

def blankRanges : List (Nat × Nat) := [
  (0x09, 0x0d), (0x1c, 0x20), (0x85, 0x85), (0xa0, 0xa0), (0x1680, 0x1680), (0x2000, 0x200a),
  (0x2028, 0x2029), (0x202f, 0x202f), (0x205f, 0x205f), (0x3000, 0x3000)]

def isBlank (c : Char) : Bool := inRanges c.toNat blankRanges

def trimBy (p : Char → Bool) (s : List Char) : List Char :=
  ((s.dropWhile p).reverse.dropWhile p).reverse

def trim (s : List Char) : List Char := trimBy isBlank s

/-- The words of a text behind the letters, in reverse, of a word already begun. -/
def wordsFrom (pending : List Char) : List Char → List (List Char)
  | [] => if pending.isEmpty then [] else [pending.reverse]
  | c :: cs =>
    if isBlank c then
      if pending.isEmpty then wordsFrom [] cs else pending.reverse :: wordsFrom [] cs
    else wordsFrom (c :: pending) cs

def words (s : List Char) : List (List Char) := wordsFrom [] s

/-- The words of a text with one plain space between neighbours. -/
def squeeze (s : List Char) : List Char := [' '].intercalate (words s)

theorem ne_nil_of_mem_wordsFrom {pending s w : List Char} (h : w ∈ wordsFrom pending s) :
    w ≠ [] := by
  induction s generalizing pending with
  | nil =>
    cases pending <;> simp_all [wordsFrom]
  | cons c cs ih =>
    simp only [wordsFrom] at h
    split at h
    · split at h
      · exact ih h
      · rcases List.mem_cons.1 h with rfl | h
        · simp_all
        · exact ih h
    · exact ih h

/-- A word holds no blank. -/
theorem isBlank_eq_false_of_mem_wordsFrom {pending s w : List Char}
    (hp : ∀ c ∈ pending, isBlank c = false) (h : w ∈ wordsFrom pending s) :
    ∀ c ∈ w, isBlank c = false := by
  induction s generalizing pending with
  | nil =>
    have : w = pending.reverse := by cases pending <;> simp_all [wordsFrom]
    simpa [this] using hp
  | cons c cs ih =>
    simp only [wordsFrom] at h
    split at h
    · split at h
      · exact ih (by simp) h
      · rcases List.mem_cons.1 h with rfl | h
        · simpa using hp
        · exact ih (by simp) h
    · refine ih ?_ h
      intro d hd
      rcases List.mem_cons.1 hd with rfl | hd
      · simp_all
      · exact hp d hd

end TableAtlas.Text
