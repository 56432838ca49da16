import TableAtlas.Policy.File
import TableAtlas.Record

/-!
# Reports of commands

A command says what it does in notices, puts its result on the output or into listings, and
either succeeds or fails for one cause, which is its last word. The log is what the library
told meanwhile. There is no report where the dump cannot be looked up.

Messages and the cells of listings are handed to the terminal as they stand: names, paths and
comments in them are not escaped, though the terminal reads brackets as markup. It is assumed here
that the terminal accepts every text. How it shows one, or that it may refuse one whose brackets
are no proper markup, is not described.
-/

namespace TableAtlas

open Text

/-- A text behind a label that has a style of its own. -/
structure Message where
  style : String
  label : String
  text : String
  deriving DecidableEq

namespace Message

/-- The message with markup for its style. -/
def markup (m : Message) : String := "[" ++ m.style ++ "]" ++ m.label ++ "[/] " ++ m.text

def plain (m : Message) : String := m.label ++ " " ++ m.text

end Message

inductive CommandError where
  | missingDump (l : Location)
  | wrongExtension
  | unopenedDump (l : Location) (cause : OpenError)
  | undecodableDump (l : Location) (fault : Utf8.Fault)
  | policy (l : Location) (cause : Policy.FileError)
  | extraction (cause : Dump.ExtractionError)
  | unknownTable (table : String)
  deriving DecidableEq

inductive Notice where
  | sourceFile (l : Location)
  | outputFormat (name : String)
  | skipped (statements : Nat)
  | selected (table : String)
  | extracted (tables : Nat)
  | inferred (relationships : Nat)
  | generated
  deriving DecidableEq

namespace CommandError

def unreadable (l : Location) (cause : String) : String :=
  "Cannot read SQL file: " ++ l.toString ++ " (" ++ cause ++ ")"

def text : CommandError → String
  | missingDump l => "SQL file does not exist: " ++ l.toString
  | wrongExtension => "SQL file has invalid extension: .sql, .txt"
  | unopenedDump l cause => unreadable l (cause.message l)
  | undecodableDump l fault => unreadable l fault.message
  | policy l cause => cause.message l
  | extraction cause => cause.message
  | unknownTable table => "Unknown table '" ++ table ++ "'"

def message (e : CommandError) : Message := ⟨"bold red", "Error:", e.text⟩

end CommandError

namespace Notice

def text : Notice → String
  | sourceFile l => "Source file: " ++ l.toString
  | outputFormat name => "Output format: " ++ name
  | skipped n => "Skipped " ++ decimalText n ++ " unparseable block(s)"
  | selected table => "Selected table: " ++ table
  | extracted n => "Extracted " ++ decimalText n ++ " table(s)"
  | inferred n => "Inferred " ++ decimalText n ++ " relationship(s)"
  | generated => "Diagram generation completed successfully"

/-- Whether a notice tells of the success of the whole command. -/
def isSuccess : Notice → Bool
  | extracted _ | inferred _ | generated => true
  | sourceFile _ | outputFormat _ | skipped _ | selected _ => false

def message (n : Notice) : Message :=
  if n.isSuccess then ⟨"bold green", "✓", n.text⟩ else ⟨"bold blue", "i", n.text⟩

end Notice

structure Listing.Heading where
  title : String
  style : String
  alignRight : Bool
  deriving DecidableEq

/-- A table for the terminal. -/
structure Listing where
  title : String
  headings : List Listing.Heading
  rows : List (List String)
  deriving DecidableEq

/-- A listing line by line: its title, its headings and its rows. -/
def Listing.lines (l : Listing) : List String :=
  l.title :: (l.headings.map (·.title) :: l.rows).map (" | ".intercalate ·)

structure Report where
  notices : List Notice
  output : List Char
  listings : List Listing
  log : List Record
  failure : Option CommandError
  deriving DecidableEq

/-- What comes of a command. -/
abbrev Result := Except LookupError Report

namespace Report

def failed (e : CommandError) : Report := ⟨[], [], [], [], some e⟩

/-- The report of what follows some notices and records. -/
def after (r : Report) (notices : List Notice) (log : List Record) : Report :=
  { r with notices := notices ++ r.notices, log := log ++ r.log }

def exitCode (r : Report) : Nat := if r.failure.isSome then 1 else 0

/-- All that is said, the cause of a failure last. -/
def messages (r : Report) : List Message :=
  r.notices.map Notice.message ++ r.failure.toList.map CommandError.message

@[simp] theorem failure_after (r : Report) (notices : List Notice) (log : List Record) :
    (r.after notices log).failure = r.failure := rfl

@[simp] theorem output_after (r : Report) (notices : List Notice) (log : List Record) :
    (r.after notices log).output = r.output := rfl

@[simp] theorem listings_after (r : Report) (notices : List Notice) (log : List Record) :
    (r.after notices log).listings = r.listings := rfl

@[simp] theorem exitCode_after (r : Report) (notices : List Notice) (log : List Record) :
    (r.after notices log).exitCode = r.exitCode := rfl

end Report

end TableAtlas
