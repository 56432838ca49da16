import TableAtlas.Dump.Source
import TableAtlas.Schema
import TableAtlas.Text.Order
import TableAtlas.Text.Quoted

/-!
# Log records

What is worth telling about a run, as values. Skipped statements and loads that fail are
warnings; the rest is detail for debugging. Every function that has something to tell returns
its records in the order of the events.
-/

namespace TableAtlas

open Text

inductive Level where
  | debug
  | warning
  deriving DecidableEq

def Level.text : Level → String
  | .debug => "DEBUG"
  | .warning => "WARNING"

inductive Record where
  | skipped (statement : Skipped)
  | parsed (table : String) (columns : Nat) (keys : List String)
  | inferred (relationships owners : Nat)
  | indexed (tables : Nat)
  | kept (cause : Dump.ExtractionError)
  deriving DecidableEq

namespace Record

def level : Record → Level
  | skipped _ | kept _ => .warning
  | parsed .. | inferred .. | indexed _ => .debug

/-- The part of the library that tells. -/
def logger : Record → String
  | skipped _ => "ddl.blocks"
  | parsed .. => "ddl.main"
  | inferred .. => "diagram.relationships"
  | indexed _ => "diagram.highlight"
  | kept _ => "diagram.session"

def message : Record → String
  | skipped s => "Skipping CREATE TABLE block (" ++ s.reason.text ++ "): " ++ s.excerpt
  | parsed table columns keys =>
    "Parsed table " ++ table ++ ": " ++ decimalText columns ++ " columns, primary key " ++
      String.ofList (quotedList ((sortTexts keys).map String.toList))
  | inferred relationships owners =>
    "Inferred " ++ decimalText relationships ++ " relationships from " ++ decimalText owners ++
      " key columns"
  | indexed tables => "Rebuilt adjacency for " ++ decimalText tables ++ " tables"
  | kept cause => "Keeping previous schema: " ++ cause.message

def isWarning (r : Record) : Bool := r.level = .warning

end Record

end TableAtlas
