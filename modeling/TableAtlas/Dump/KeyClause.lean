import TableAtlas.Dump.Name
import TableAtlas.Text.Search

/-!
# Key clauses

The primary key of a table is read from the leftmost `PRIMARY KEY (…)` whose list is closed
and not empty. The list ends at its first closing parenthesis.
-/

namespace TableAtlas.Dump

open Text

/-- The list of a clause that stands at the front. -/
def keyList? (s : List Char) : Option (List Char) := do
  let s ← afterKeyword? "PRIMARY KEY".toList s
  enclosed? '(' ')' (s.dropWhile isBlank)

/-- The distinct names of a key list, without blanks and then without quotes at their ends. -/
def listedNames (list : List Char) : List (List Char) :=
  (((list.splitOn ',').map fun part => trimBy isQuote (trim part)).filter (!·.isEmpty)).eraseDups

def keyNames (body : List Char) : List String :=
  match search? keyList? body with
  | none => []
  | some list => (listedNames list).map String.ofList

theorem mem_listedNames {list n : List Char} :
    n ∈ listedNames list ↔
      (∃ part ∈ list.splitOn ',', trimBy isQuote (trim part) = n) ∧ n ≠ [] := by
  simp [listedNames, List.mem_eraseDups]

theorem mem_keyNames {body n : List Char} :
    String.ofList n ∈ keyNames body ↔ ∃ list, search? keyList? body = some list ∧
      n ∈ listedNames list := by
  unfold keyNames
  cases search? keyList? body <;> simp [String.ofList_inj]

end TableAtlas.Dump
