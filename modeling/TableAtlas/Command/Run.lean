import TableAtlas.Command.Report
import TableAtlas.Diagram.Session
import TableAtlas.Dump.Sample
import TableAtlas.Page.Diagram
import TableAtlas.Policy.Bundled
import TableAtlas.Text.Line

/-!
# Commands

The commands read a dump, and a policy where one is given, from a file tree. A policy is read
before the dump, and a session begins between the two. A command that fails has put nothing on
the output.
-/

namespace TableAtlas

open Text

/-- How a result is shown. A format that a command does not know shows nothing. -/
inductive Format where
  | table
  | json
  | html
  | other (name : String)
  deriving DecidableEq

namespace Format

def name : Format → String
  | table => "table"
  | json => "json"
  | html => "html"
  | other name => name

def ofName (name : String) : Format :=
  if name = "table" then table
  else if name = "json" then json
  else if name = "html" then html
  else other name

theorem name_ofName (name : String) : (ofName name).name = name := by
  unfold ofName
  split
  · simp_all [Format.name]
  · split
    · simp_all [Format.name]
    · split <;> simp_all [Format.name]

end Format

namespace Command

section Reading

variable (t : FileTree)

/-- Goes on with the policy at a location, or with the bundled one where none is given. -/
def withPolicy (l : Option Location) (next : Policy → Result) : Result :=
  match l with
  | none => next .bundled
  | some l =>
    match Policy.load t l with
    | .ok p => next p
    | .error cause => .ok (.failed (.policy l cause))

/-- Extensions of dumps, in either case. -/
def extensions : List (List Char) := [".sql".toList, ".txt".toList]

def isDumpName (l : Location) : Bool := extensions.contains (l.suffix.map Char.toLower)

/-- The text of a dump, with line feeds for all line ends. -/
def dumpText (l : Location) : Except CommandError (List Char) :=
  match t.open? l with
  | .error cause => .error (.unopenedDump l cause)
  | .ok bytes =>
    match Utf8.decode bytes with
    | .error fault => .error (.undecodableDump l fault)
    | .ok s => .ok (unifyBreaks s)

/-- What is reported on a dump that is there. -/
def dumpReport (l : Location) (next : List Char → Report) : Report :=
  if !isDumpName l then .failed .wrongExtension
  else
    let report : Report :=
      match dumpText t l with
      | .ok dump => next dump
      | .error e => .failed e
    report.after [.sourceFile l] []

def withDump (l : Location) (next : List Char → Report) : Result :=
  (t.exists? l).map fun found =>
    if found then dumpReport t l next else .failed (.missingDump l)

def skippedNotices (s : Schema) : List Notice :=
  if s.skipped.isEmpty then [] else [.skipped s.skipped.length]

def withSchema (l : Location) (next : Schema → Report) : Result :=
  withDump t l fun dump =>
    let report : Report :=
      match Dump.extract (.text dump) with
      | .ok schema => (next schema).after (skippedNotices schema) []
      | .error cause => .failed (.extraction cause)
    report.after [] (Dump.extractLog (.text dump))

end Reading

section Results

open Json

def schemaListing (s : Schema) : Listing where
  title := "Extracted Tables"
  headings := [⟨"Table", "bold cyan", false⟩, ⟨"Columns", "", true⟩,
    ⟨"Primary Key", "bold yellow", false⟩, ⟨"Comment", "", false⟩]
  rows := s.tables.map fun t =>
    [t.name, decimalText t.columns.length, ", ".intercalate t.primaryKeys, t.comment]

def skippedListing (s : Schema) : Listing where
  title := "Skipped Blocks"
  headings := [⟨"Reason", "bold red", false⟩, ⟨"Excerpt", "", false⟩]
  rows := s.skipped.map fun b => [b.reason.text, b.excerpt]

def schemaListings (s : Schema) : List Listing :=
  schemaListing s :: if s.skipped.isEmpty then [] else [skippedListing s]

def relationshipListing (rs : List Relationship) : Listing where
  title := "Inferred Relationships"
  headings := [⟨"From", "bold cyan", false⟩, ⟨"To", "bold cyan", false⟩,
    ⟨"Column", "bold yellow", false⟩]
  rows := rs.map fun r => [r.source, r.target, r.column]

def columnJson (c : Column) : Json :=
  object [("name", string c.name), ("type", string c.type), ("comment", string c.comment),
    ("is_primary_key", bool c.isPrimaryKey), ("is_nullable", bool c.isNullable)]

def tableJson (t : Table) : Json :=
  object [("id", string t.id), ("name", string t.name), ("comment", string t.comment),
    ("columns", array (t.columns.map columnJson))]

def skippedJson (s : Skipped) : Json :=
  object [("reason", string s.reason.text), ("excerpt", string s.excerpt)]

def schemaJson (s : Schema) : Json :=
  object [("tables", array (s.tables.map tableJson)),
    ("skipped", array (s.skipped.map skippedJson))]

def relationshipJson (r : Relationship) : Json :=
  object [("id", string r.id), ("source", string r.source), ("target", string r.target),
    ("column", string r.column)]

end Results

section Commands

variable (t : FileTree) (l : Location) (format : Format)

def parse : Result :=
  withSchema t l fun s => {
    notices := [.extracted s.tables.length]
    output := if format = .json then (schemaJson s).streamText else []
    listings := if format = .table then schemaListings s else []
    log := []
    failure := none }

def relationships (policy : Option Location) : Result :=
  withPolicy t policy fun p =>
    withSchema t l fun s =>
      let rs := p.relationships s.tables
      { notices := [.inferred rs.length]
        output := if format = .json then (Json.array (rs.map relationshipJson)).streamText else []
        listings := if format = .table then [relationshipListing rs] else []
        log := [p.inferenceRecord s.tables]
        failure := none }

/-- Goes on with a session in which a table is selected, if one is asked for. -/
def withSelection (s : Session) (select : Option String) (next : Session → Report) : Report :=
  match select with
  | none => next s
  | some table =>
    if s.schema.tableIds.contains table then
      (next (s.select (some table))).after [.selected table] []
    else .failed (.unknownTable table)

/-- The document of a session in the format asked for. -/
def documentOutput (title : Option String) (d : Document) : List Char :=
  match format with
  | .json => d.toJson.streamText
  | .html => Page.render title d
  | .table | .other _ => []

def diagram (select : Option String) (policy : Option Location) (title : Option String) :
    Result :=
  withPolicy t policy fun p =>
    let result := withDump t l fun dump =>
      let session := ((Session.new p).load (.text dump)).1
      let report : Report :=
        match session.error with
        | some cause => .failed (.extraction cause)
        | none =>
          withSelection session select fun s => {
            notices := [.generated]
            output := documentOutput format title (s.document l.stem)
            listings := []
            log := []
            failure := none }
      report.after [.outputFormat format.name] ((Session.new p).loadLog (.text dump))
    result.map (·.after [] Session.newLog)

def sample : Report := ⟨[], Dump.sample.toList, [], [], none⟩

end Commands

end Command

end TableAtlas
