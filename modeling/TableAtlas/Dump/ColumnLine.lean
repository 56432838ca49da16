import TableAtlas.Dump.Name
import TableAtlas.Schema
import TableAtlas.Text.Line
import TableAtlas.Text.Search
import TableAtlas.Text.UpperCase

/-!
# Column lines

A column list has one declaration a line. A line declares a column unless it is empty, opens
a key, a constraint, a partition or a comment, has no name at its front, or has a name that
is a reserved word.
-/

namespace TableAtlas.Dump

open Text

/-- Beginnings of lines that declare no column, in the capitals that export tools write. -/
def structuralOpenings : List (List Char) :=
  ["PRIMARY KEY", "KEY", "INDEX", "UNIQUE", "CONSTRAINT", "FOREIGN KEY", "--", "/*",
    "PARTITION"].map String.toList

def isStructural (line : List Char) : Bool := structuralOpenings.any (·.isPrefixOf line)

/-- First words of key and constraint lines, compared with names in upper case. -/
def reservedNames : List (List Char) :=
  ["KEY", "PRIMARY", "INDEX", "UNIQUE", "CONSTRAINT", "FOREIGN", "CHECK"].map String.toList

def isReserved (name : List Char) : Bool := reservedNames.contains (upper name)

/-- The type of a declaration whose name is cut off, `unknown` where no word follows. -/
def declaredType (s : List Char) : List Char :=
  let word := s.takeWhile isWord
  if word.isEmpty then "unknown".toList
  else
    match enclosed? '(' ')' (s.dropWhile isWord) with
    | some arguments => word ++ '(' :: arguments ++ [')']
    | none => word

/-- The comment of a clause that stands at the front. -/
def commentClause? (s : List Char) : Option (List Char) := do
  enclosed? '\'' '\'' (← afterBlanks? (← afterKeyword? "COMMENT".toList s))

/-- The column that a line declares, in a table whose key columns are `keys`. -/
def columnOfLine? (keys : List String) (line : List Char) : Option Column :=
  let line := trim line
  if line.isEmpty || isStructural line then none
  else
    match leadingName? line with
    | none => none
    | some (name, rest) =>
      if isReserved name then none
      else
        some {
          name := String.ofList name
          type := String.ofList (declaredType (trim rest))
          comment := String.ofList ((search? commentClause? line).getD [])
          isPrimaryKey := keys.contains (String.ofList name)
          isNullable := !occurs (hasKeyword "NOT NULL".toList) line }

def columns (keys : List String) (body : List Char) : List Column :=
  (lines body).filterMap (columnOfLine? keys)

theorem isStructural_iff {line : List Char} :
    isStructural line = true ↔ ∃ o ∈ structuralOpenings, o <+: line := by
  simp [isStructural]

/-- A blank line declares nothing. -/
theorem columnOfLine?_nil (keys : List String) : columnOfLine? keys [] = none := rfl

theorem columns_nil (keys : List String) : columns keys [] = [] := rfl

end TableAtlas.Dump
