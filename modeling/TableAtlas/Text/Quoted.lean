import TableAtlas.Text.Digits
import TableAtlas.Text.Printable

/-!
# Quoted texts

Log records and reports of missing files show a text between quotes, so that blanks at its
ends and characters without a glyph are seen. The quote is `'`, or `"` when the text holds
`'` and no `"`.
-/

namespace TableAtlas.Text

def quoteMark (s : List Char) : Char :=
  if '\'' ∈ s ∧ '"' ∉ s then '"' else '\''

def codeEscape (n : Nat) : List Char :=
  if n < 0x100 then '\\' :: 'x' :: hex 2 n
  else if n < 0x10000 then '\\' :: 'u' :: hex 4 n
  else '\\' :: 'U' :: hex 8 n

def quotedChar (mark c : Char) : List Char :=
  if c = '\\' ∨ c = mark then ['\\', c]
  else if c = '\n' then ['\\', 'n']
  else if c = '\r' then ['\\', 'r']
  else if c = '\t' then ['\\', 't']
  else if isPrintable c then [c]
  else codeEscape c.toNat

def quoted (s : List Char) : List Char :=
  quoteMark s :: (s.flatMap (quotedChar (quoteMark s)) ++ [quoteMark s])

/-- A list of texts between brackets. -/
def quotedList (xs : List (List Char)) : List Char :=
  '[' :: ([',', ' '].intercalate (xs.map quoted) ++ [']'])

end TableAtlas.Text
