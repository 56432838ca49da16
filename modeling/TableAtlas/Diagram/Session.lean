import TableAtlas.Diagram.Document
import TableAtlas.Dump.Extraction
import TableAtlas.Relationship.Ownership

/-!
# Diagram sessions

A session shows the schema of the last dump that loaded and a selection in it. A load that
succeeds replaces schema and relationships together and clears the selection; one that fails
leaves all as it was and only notes the cause.
-/

namespace TableAtlas

structure Session where
  policy : Policy
  schema : Schema
  highlight : Highlight
  error : Option Dump.ExtractionError

namespace Session

open Dump

def new (p : Policy) : Session := ⟨p, .empty, .ofRelationships [], none⟩

def newLog : List Record := Highlight.empty.assignLog []

def relationships (s : Session) : List Relationship := s.highlight.relationships

/-- Shows a schema with the relationships inferred for it and nothing selected. -/
def display (s : Session) (schema : Schema) : Session where
  policy := s.policy
  schema := schema
  highlight := (s.highlight.assign (s.policy.relationships schema.tables)).clear
  error := none

def displayLog (s : Session) (schema : Schema) : List Record :=
  s.policy.inferenceRecord schema.tables ::
    s.highlight.assignLog (s.policy.relationships schema.tables)

/-- The session behind a load and whether the source loaded. -/
def load (s : Session) (source : Source) : Session × Bool :=
  match extract source with
  | .ok schema => (s.display schema, true)
  | .error cause => ({ s with error := some cause }, false)

def loadLog (s : Session) (source : Source) : List Record :=
  extractLog source ++
    match extract source with
    | .ok schema => s.displayLog schema
    | .error cause => [.kept cause]

def select (s : Session) (table : Option String) : Session :=
  { s with highlight := s.highlight.select table }

def clear (s : Session) : Session := { s with highlight := s.highlight.clear }

def document (s : Session) (name : String) : Document :=
  .ofTables name s.schema.tables s.relationships s.highlight

/-- What can be done to a session. -/
inductive Step where
  | load (source : Source)
  | select (table : Option String)
  | clear

def apply (s : Session) : Step → Session
  | .load source => (s.load source).1
  | .select table => s.select table
  | .clear => s.clear

def stepLog (s : Session) : Step → List Record
  | .load source => s.loadLog source
  | .select _ | .clear => []

def run (s : Session) (steps : List Step) : Session := steps.foldl apply s

theorem run_append (s : Session) (xs ys : List Step) : s.run (xs ++ ys) = (s.run xs).run ys := by
  simp [run]

@[simp] theorem policy_apply (s : Session) (step : Step) : (s.apply step).policy = s.policy := by
  cases step with
  | load source => simp only [apply, load]; split <;> rfl
  | select => rfl
  | clear => rfl

end Session

end TableAtlas
