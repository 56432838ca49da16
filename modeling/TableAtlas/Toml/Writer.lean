import TableAtlas.Toml.Lexical

/-!
# Writing TOML

Settings are written line by line, a string or an array of strings each, and a header begins the
next table of an array of tables. Quotes and backslashes in a string are escaped, and control
characters are written by their code. Which further characters are written so, and what blanks stand
behind the commas of an array, is left to a style.
-/

namespace TableAtlas.Toml

open Text

structure Style where
  /-- The characters that are written by their code. -/
  isCoded : Char → Bool
  isCoded_of_isControl : ∀ c, isControl c = true → isCoded c = true
  /-- A code has four digits. -/
  code_lt : ∀ c, isCoded c = true → c.toNat < 0x10000
  /-- What stands between a comma and the next string. -/
  gap : List Char
  isBlankOrBreak_of_mem_gap : ∀ c ∈ gap, isBlankOrBreak c = true

namespace Style

/-- All control characters of Unicode by their code, and a space behind commas. -/
def standard : Style where
  isCoded c := c.toNat < 0x20 || (0x7f ≤ c.toNat && c.toNat < 0xa0)
  isCoded_of_isControl := by
    intro c
    simp only [isControl, Bool.and_eq_true, Bool.or_eq_true, decide_eq_true_eq]
    omega
  code_lt := by
    intro c
    simp only [Bool.and_eq_true, Bool.or_eq_true, decide_eq_true_eq]
    omega
  gap := [' ']
  isBlankOrBreak_of_mem_gap := by decide

variable (w : Style)

def escape (c : Char) : List Char :=
  if c = '"' || c = '\\' then ['\\', c]
  else if w.isCoded c then '\\' :: 'u' :: hex 4 c.toNat
  else [c]

def string (s : String) : List Char := '"' :: (s.toList.flatMap w.escape ++ ['"'])

def array (strings : List String) : List Char :=
  '[' :: ((',' :: w.gap).intercalate (strings.map w.string) ++ [']'])

end Style

def settingLine (name : String) (value : List Char) : List Char :=
  name.toList ++ ' ' :: '=' :: ' ' :: (value ++ ['\n'])

/-- The header of one more table in an array of tables. -/
def listTableLine (name : String) : List Char :=
  '[' :: '[' :: (name.toList ++ [']', ']', '\n'])

end TableAtlas.Toml
