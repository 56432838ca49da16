import TableAtlas.Text.Blank

/-!
# Keywords

Keywords are written here in capitals and recognised in either case. The letters I, S and K
have further forms that fold to the same small letter: the dotted capital and the dotless
small i, the long s and the Kelvin sign.
-/

namespace TableAtlas.Text

/-- Whether a character is a form of the letter `k` of a keyword. -/
def sameLetter (k c : Char) : Bool :=
  c = k || c = k.toLower ||
    match k with
    | 'I' => c = '\u0130' || c = '\u0131'
    | 'S' => c = '\u017f'
    | 'K' => c = '\u212a'
    | _ => false

/-- The text behind a keyword that stands at its front. -/
def afterKeyword? : List Char → List Char → Option (List Char)
  | [], s => some s
  | _ :: _, [] => none
  | k :: ks, c :: cs => if sameLetter k c then afterKeyword? ks cs else none

def hasKeyword (k s : List Char) : Bool := (afterKeyword? k s).isSome

/-- The text behind a blank and all blanks that follow it. -/
def afterBlanks? : List Char → Option (List Char)
  | [] => none
  | c :: cs => if isBlank c then some (cs.dropWhile isBlank) else none

def afterChar? (d : Char) : List Char → Option (List Char)
  | [] => none
  | c :: cs => if c = d then some cs else none

/-- A non-empty text between `opening` at the front and the first `closing` behind it. -/
def enclosed? (opening closing : Char) (s : List Char) : Option (List Char) := do
  let body ← afterChar? opening s
  let inner := body.takeWhile (· ≠ closing)
  if inner.isEmpty then none
  else
    let _ ← afterChar? closing (body.dropWhile (· ≠ closing))
    some inner

end TableAtlas.Text
