import Mathlib.Tactic.MkIffOfInductiveProp
import TableAtlas.Dump.ColumnLine
import TableAtlas.Proofs.Heading
import TableAtlas.Proofs.LeadingName
import TableAtlas.Proofs.Quotation

/-!
# Declarations as export tools write them

A declaration holds what is said about a table together with the letters with which each
keyword is spelled. It is written as one statement with one line for each column, the primary
key and each index. What can be misread in it are the free texts: the arguments of a type and
the comments.
-/

namespace TableAtlas.Dump

open Text

/-- A way to spell a keyword, which is given in capitals. -/
structure Spelling (k : String) where
  text : List Char
  toUpper_text : text.map Char.toUpper = k.toList

/-- A name or the first word of a type. -/
structure Word where
  chars : List Char
  ne_nil : chars ≠ []
  isWord_of_mem : ∀ x ∈ chars, isWord x = true

structure CommentClause where
  keyword : Spelling "COMMENT"
  text : List Char

inductive Nullity where
  | notNull (keyword : Spelling "NOT NULL")
  | defaultNull (keyword : Spelling "DEFAULT NULL")

structure ColumnDecl where
  name : Word
  type : Word
  arguments? : Option (List Char)
  nullity : Nullity
  comment? : Option CommentClause

structure KeyClause where
  keyword : Spelling "PRIMARY KEY"
  names : List Word
  names_ne_nil : names ≠ []
  method : Spelling "USING BTREE"

structure IndexClause where
  keyword : Spelling "INDEX"
  name : Word
  column : Word
  method : Spelling "USING BTREE"

structure TableDecl where
  heading : Spelling "CREATE TABLE"
  guard? : Option (Spelling "IF NOT EXISTS")
  name : Word
  columns : List ColumnDecl
  key? : Option KeyClause
  indexes : List IndexClause
  engine : Spelling "ENGINE = INNODB"
  comment? : Option CommentClause

/-! ## Writing -/

def backquoted (name : List Char) : List Char := '\x60' :: (name ++ ['\x60'])

def nameList (names : List Word) : List Char :=
  [',', ' '].intercalate (names.map fun name => backquoted name.chars)

namespace Nullity

def text : Nullity → List Char
  | notNull keyword => keyword.text
  | defaultNull keyword => keyword.text

def isNullable : Nullity → Bool
  | notNull _ => false
  | defaultNull _ => true

end Nullity

namespace ColumnDecl

def typeText (c : ColumnDecl) : List Char :=
  match c.arguments? with
  | none => c.type.chars
  | some arguments => c.type.chars ++ '(' :: arguments ++ [')']

def commentText (c : ColumnDecl) : List Char := (c.comment?.map (·.text)).getD []

def commentPart (c : ColumnDecl) : List Char :=
  match c.comment? with
  | none => []
  | some k => ' ' :: (k.keyword.text ++ ' ' :: quotation k.text)

def text (c : ColumnDecl) : List Char :=
  backquoted c.name.chars ++ ' ' :: (c.typeText ++ ' ' :: (c.nullity.text ++ c.commentPart))

def line (c : ColumnDecl) : List Char := ' ' :: ' ' :: c.text

/-- The texts in a declaration that need not be words. -/
def freeTexts (c : ColumnDecl) : List (List Char) :=
  c.arguments?.toList ++ (c.comment?.map (·.text)).toList

def column (keys : List (List Char)) (c : ColumnDecl) : Column where
  name := String.ofList c.name.chars
  type := String.ofList c.typeText
  comment := String.ofList c.commentText
  isPrimaryKey := keys.contains c.name.chars
  isNullable := c.nullity.isNullable

end ColumnDecl

def KeyClause.line (k : KeyClause) : List Char :=
  ' ' :: ' ' :: (k.keyword.text ++ ' ' :: '(' ::
    (nameList k.names ++ ')' :: ' ' :: k.method.text))

def IndexClause.line (i : IndexClause) : List Char :=
  ' ' :: ' ' :: (i.keyword.text ++ ' ' :: (backquoted i.name.chars ++
    '(' :: (backquoted i.column.chars ++ ')' :: ' ' :: i.method.text)))

namespace TableDecl

def guardPart (d : TableDecl) : List Char :=
  match d.guard? with
  | none => []
  | some keyword => keyword.text ++ [' ']

def items (d : TableDecl) : List (List Char) :=
  d.columns.map ColumnDecl.line ++ d.key?.toList.map KeyClause.line ++
    d.indexes.map IndexClause.line

def body (d : TableDecl) : List Char := '\n' :: ([',', '\n'].intercalate d.items ++ ['\n'])

def options (d : TableDecl) : List Char :=
  ' ' :: (d.engine.text ++
    match d.comment? with
    | none => [';', '\n']
    | some k => ' ' :: (k.keyword.text ++ ' ' :: '=' :: ' ' :: (quotation k.text ++ [';', '\n'])))

/-- What stands behind the heading. -/
def statement (d : TableDecl) : List Char :=
  ' ' :: (d.guardPart ++ (backquoted d.name.chars ++ ' ' :: '(' :: (d.body ++ ')' :: d.options)))

def written (d : TableDecl) : List Char := d.heading.text ++ d.statement

def keys (d : TableDecl) : List (List Char) := (d.key?.toList.flatMap (·.names)).map (·.chars)

def commentText (d : TableDecl) : List Char := (d.comment?.map (·.text)).getD []

/-- The table that is declared. -/
def table (d : TableDecl) : Table where
  id := String.ofList d.name.chars
  name := String.ofList d.name.chars
  comment := String.ofList d.commentText
  columns := d.columns.map (ColumnDecl.column d.keys)

end TableDecl

/-- What may follow an item on its line. -/
def lineEnds : List (List Char) := [[], [',']]

theorem mem_lineEnds_iff {e : List Char} : e ∈ lineEnds ↔ e = [] ∨ e = [','] := by
  simp [lineEnds]

/-! ## Declarations that can be read -/

/-- The depth of parentheses behind a text that begins at some depth, unless the text closes
more of them than are open. -/
def depth? : Nat → List Char → Option Nat
  | depth, [] => some depth
  | depth, c :: cs =>
    if c = '(' then depth? (depth + 1) cs
    else if c = ')' then
      match depth with
      | 0 => none
      | depth + 1 => depth? depth cs
    else depth? depth cs

/-- Whether the list of a primary key is opened at the front. -/
def opensKeyList (s : List Char) : Bool :=
  match afterKeyword? "PRIMARY KEY".toList s with
  | none => false
  | some rest => (afterChar? '(' (rest.dropWhile isBlank)).isSome

/-- Names, arguments and comments stay within the characters that their places allow. -/
@[mk_iff]
structure ColumnDecl.WellFormed (c : ColumnDecl) : Prop where
  name : isReserved c.name.chars = false
  arguments_ne_nil : c.arguments? ≠ some []
  arguments : ∀ a ∈ c.arguments?, ∀ x ∈ a,
    x ≠ '(' ∧ x ≠ ')' ∧ x ≠ '\'' ∧ isLineBreak x = false
  comment : ∀ k ∈ c.comment?, ∀ x ∈ k.text, x ≠ '\'' ∧ isLineBreak x = false

/-- No free text holds what is searched for elsewhere in the declaration. -/
@[mk_iff]
structure ColumnDecl.Unambiguous (c : ColumnDecl) : Prop where
  no_heading : ∀ t ∈ c.freeTexts, occurs startsHeading t = false
  no_notNull : c.nullity.isNullable = true →
    ∀ t ∈ c.freeTexts, occurs (hasKeyword "NOT NULL".toList) t = false
  no_keyList : ∀ k ∈ c.comment?, occurs opensKeyList k.text = false
  balanced : ∀ k ∈ c.comment?, depth? 0 k.text = some 0

@[mk_iff]
structure TableDecl.WellFormed (d : TableDecl) : Prop where
  columns : ∀ c ∈ d.columns, c.WellFormed
  comment : ∀ k ∈ d.comment?, '\'' ∉ k.text

@[mk_iff]
structure TableDecl.Unambiguous (d : TableDecl) : Prop where
  columns : ∀ c ∈ d.columns, c.Unambiguous
  comment : ∀ k ∈ d.comment?, occurs startsHeading k.text = false

instance (c : ColumnDecl) : Decidable c.WellFormed :=
  decidable_of_iff' _ (ColumnDecl.wellFormed_iff c)

instance (c : ColumnDecl) : Decidable c.Unambiguous :=
  decidable_of_iff' _ (ColumnDecl.unambiguous_iff c)

instance (d : TableDecl) : Decidable d.WellFormed :=
  decidable_of_iff' _ (TableDecl.wellFormed_iff d)

instance (d : TableDecl) : Decidable d.Unambiguous :=
  decidable_of_iff' _ (TableDecl.unambiguous_iff d)

/-! ## Words and spellings -/

theorem isBlank_of_isLineBreak {c : Char} (h : isLineBreak c = true) : isBlank c = true := by
  have htable : ∀ d ∈ ['\n', '\r', '\x0b', '\x0c', '\x1c', '\x1d', '\x1e', '\u0085', '\u2028',
      '\u2029'], isBlank d = true := by
    decide
  exact htable c (by simpa [isLineBreak] using h)

/-- Whether a character can be part of a word or of a keyword. -/
def isPlain (c : Char) : Bool := isWord c || c = ' ' || c = '='

theorem not_mem_of_isPlain {s : List Char} (hs : ∀ x ∈ s, isPlain x = true) {d : Char}
    (hd : isPlain d = false) : d ∉ s := by
  intro hmem
  rw [hs d hmem] at hd
  cases hd

theorem not_lineBreak_of_isPlain {s : List Char} (hs : ∀ x ∈ s, isPlain x = true) :
    ∀ x ∈ s, isLineBreak x = false := by
  intro x hx
  by_contra h
  rw [Bool.not_eq_false] at h
  have hplain := hs x hx
  simp only [isPlain, isWord_of_isBlank (isBlank_of_isLineBreak h), Bool.false_or, Bool.or_eq_true,
    decide_eq_true_eq] at hplain
  rcases hplain with rfl | rfl
  · exact absurd h (by decide)
  · exact absurd h (by decide)

namespace Word

theorem isPlain (w : Word) : ∀ x ∈ w.chars, isPlain x = true := by
  intro x hx
  simp [Dump.isPlain, w.isWord_of_mem x hx]

theorem isWordRun (w : Word) : IsWordRun w.chars := ⟨w.ne_nil, w.isWord_of_mem⟩

theorem not_mem (w : Word) {d : Char} (hd : isWord d = false) : d ∉ w.chars :=
  w.isWordRun.not_mem hd

theorem not_blank (w : Word) {x : Char} (hx : x ∈ w.chars) : isBlank x = false :=
  w.isWordRun.not_blank hx

end Word

/-- Keywords are put together from capitals, spaces and equality signs. -/
class IsKeyword (k : String) : Prop where
  ne_nil : k.toList ≠ []
  fold_eq : fold k.toList = k.toList
  isPlain : ∀ x ∈ k.toList, isPlain x = true ∧ isPlain x.toLower = true

instance : IsKeyword "COMMENT" := ⟨by decide, by decide, by decide⟩
instance : IsKeyword "NOT NULL" := ⟨by decide, by decide, by decide⟩
instance : IsKeyword "DEFAULT NULL" := ⟨by decide, by decide, by decide⟩
instance : IsKeyword "PRIMARY KEY" := ⟨by decide, by decide, by decide⟩
instance : IsKeyword "USING BTREE" := ⟨by decide, by decide, by decide⟩
instance : IsKeyword "INDEX" := ⟨by decide, by decide, by decide⟩
instance : IsKeyword "CREATE TABLE" := ⟨by decide, by decide, by decide⟩
instance : IsKeyword "IF NOT EXISTS" := ⟨by decide, by decide, by decide⟩
instance : IsKeyword "ENGINE = INNODB" := ⟨by decide, by decide, by decide⟩

/-- A property of each letter of a keyword in both cases is one of every spelling. -/
theorem forall_mem_of_toUpper {q : Char → Prop} {w k : List Char} (hw : w.map Char.toUpper = k)
    (hfold : fold k = k) (hk : ∀ x ∈ k, q x ∧ q x.toLower) : ∀ x ∈ w, q x := by
  intro x hx
  have hmem : x.toUpper ∈ k := hw ▸ List.mem_map_of_mem hx
  have hself := foldCase_of_mem hfold hmem
  obtain ⟨hupper, hlower⟩ := hk x.toUpper hmem
  rcases (toUpper_eq_iff (toUpper_of_foldCase hself)).1 (rfl : x.toUpper = x.toUpper) with h | h
  · rwa [h]
  · rwa [h]

namespace Spelling

variable {k : String} [IsKeyword k] (s : Spelling k)

theorem fold_text : fold s.text = k.toList := fold_of_toUpper s.toUpper_text IsKeyword.fold_eq

theorem isPlain : ∀ x ∈ s.text, isPlain x = true :=
  forall_mem_of_toUpper s.toUpper_text IsKeyword.fold_eq IsKeyword.isPlain

theorem text_ne_nil : s.text ≠ [] := by
  intro h
  apply IsKeyword.ne_nil (k := k)
  rw [← s.toUpper_text, h, List.map_nil]

end Spelling

namespace Nullity

variable (n : Nullity)

theorem text_ne_nil : n.text ≠ [] := by
  cases n with
  | notNull s => exact s.text_ne_nil
  | defaultNull s => exact s.text_ne_nil

theorem isPlain : ∀ x ∈ n.text, isPlain x = true := by
  cases n with
  | notNull s => exact s.isPlain
  | defaultNull s => exact s.isPlain

theorem fold_text :
    fold n.text = if n.isNullable then "DEFAULT NULL".toList else "NOT NULL".toList := by
  cases n with
  | notNull s => exact s.fold_text
  | defaultNull s => exact s.fold_text

end Nullity

end TableAtlas.Dump
