import TableAtlas.Text.Keyword

/-!
# Statements of a dump

A dump is cut at every `CREATE TABLE`, in either case and with any blanks between the two
words. What stands before the first of them is preamble; a statement is the text from behind
one up to the next. Nothing else is looked at, so a statement ends in the text that follows
it in the dump.
-/

namespace TableAtlas.Dump

open Text

def afterHeading? (s : List Char) : Option (List Char) := do
  let s ← afterBlanks? (← afterKeyword? "CREATE".toList s)
  afterKeyword? "TABLE".toList s

/-- The pieces between headings. `skip` characters still belong to the heading just met, and
`pending` holds, in reverse, the piece that has begun. -/
def segmentsFrom (skip : Nat) (pending : List Char) : List Char → List (List Char)
  | [] => [pending.reverse]
  | c :: cs =>
    match skip with
    | skip + 1 => segmentsFrom skip pending cs
    | 0 =>
      match afterHeading? (c :: cs) with
      | some rest => pending.reverse :: segmentsFrom (cs.length - rest.length) [] cs
      | none => segmentsFrom 0 (c :: pending) cs

/-- The preamble and the statements. -/
def segments (dump : List Char) : List (List Char) := segmentsFrom 0 [] dump

def statements (dump : List Char) : List (List Char) := (segments dump).tail

theorem segmentsFrom_ne_nil (skip : Nat) (pending s : List Char) :
    segmentsFrom skip pending s ≠ [] := by
  induction s generalizing skip pending with
  | nil => simp [segmentsFrom]
  | cons c cs ih =>
    cases skip with
    | succ skip => exact ih skip pending
    | zero =>
      simp only [segmentsFrom]
      split
      · simp
      · exact ih 0 (c :: pending)

theorem segmentsFrom_eq_drop (skip : Nat) (pending s : List Char) :
    segmentsFrom skip pending s = segmentsFrom 0 pending (s.drop skip) := by
  induction s generalizing skip with
  | nil => simp [segmentsFrom]
  | cons c cs ih =>
    cases skip with
    | zero => rfl
    | succ skip => exact ih skip

end TableAtlas.Dump
