import TableAtlas.Text.Keyword
import TableAtlas.Text.WordChar

/-!
# Names at the front of a text

Tables and columns are named by a run of word characters with at most one quote on each side.
The quotes need not match.
-/

namespace TableAtlas.Dump

open Text

def isQuote (c : Char) : Bool := c = '\x60' || c = '"' || c = '\''

/-- The text without a quote at its front, if there is one. -/
def dropQuote : List Char → List Char
  | [] => []
  | c :: cs => if isQuote c then cs else c :: cs

/-- The name at the front of a text and the text behind it and its closing quote. -/
def leadingName? (s : List Char) : Option (List Char × List Char) :=
  let run := dropQuote s
  if (run.takeWhile isWord).isEmpty then none
  else some (run.takeWhile isWord, dropQuote (run.dropWhile isWord))

/-- The text behind `IF NOT EXISTS` and the blanks around its words. -/
def afterGuard? (s : List Char) : Option (List Char) := do
  let s ← afterBlanks? (← afterKeyword? "IF".toList s)
  let s ← afterBlanks? (← afterKeyword? "NOT".toList s)
  afterBlanks? (← afterKeyword? "EXISTS".toList s)

/-- The table that a statement names. A guard without a name behind it is no guard, and its
first word is then the name. -/
def tableName? (statement : List Char) : Option (List Char) :=
  let s := statement.dropWhile isBlank
  let guarded := (afterGuard? s).bind leadingName?
  (guarded.or (leadingName? s)).map (·.1)

end TableAtlas.Dump
