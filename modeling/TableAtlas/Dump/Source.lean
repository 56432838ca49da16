/-!
# Sources of a schema

What is handed over for extraction is a text or some other value, and an extraction fails for
one of two causes.
-/

namespace TableAtlas.Dump

inductive Source where
  | text (dump : List Char)
  | other

inductive ExtractionError where
  | noTables
  | unreadable
  deriving DecidableEq

def ExtractionError.message : ExtractionError → String
  | .noTables => "No tables found in the provided SQL."
  | .unreadable => "Failed to parse SQL. Please check the syntax."

end TableAtlas.Dump
