import TableAtlas.Policy.Basic
import TableAtlas.Text.Order

/-!
# Policies from settings

The setting `excluded_columns` is anything that can be gone through and holds scalars only, so
also a text, whose characters are then excluded. The setting `preferred_owners` is gone through
rule by rule, and a rule is a group with a column and a table. The exclusions are read first.
-/

namespace TableAtlas.Policy

open Config

inductive SettingsError where
  | wrongKind
  | missingColumn
  | missingTable
  deriving DecidableEq

/-- The members of a setting, none if it is absent. -/
def settingMembers (entries : Entries) (name : String) : Except SettingsError (List Value) :=
  match entries.lookup name with
  | none => .ok []
  | some v =>
    match v.members? with
    | some vs => .ok vs
    | none => .error .wrongKind

/-- Keeps the first of members that are the same. -/
def distinctMembers (vs : List Value) : List Value :=
  (vs.foldl (fun kept v => if kept.any (·.sameMember v) then kept else v :: kept) []).reverse

def readExcluded (entries : Entries) : Except SettingsError (List Value) := do
  let vs ← settingMembers entries "excluded_columns"
  if vs.all (·.isScalar) then return distinctMembers vs else throw .wrongKind

def readRule : Value → Except SettingsError Rule
  | .group entries =>
    match entries.lookup "column", entries.lookup "table" with
    | none, _ => .error .missingColumn
    | some _, none => .error .missingTable
    | some column, some table => .ok ⟨column, table⟩
  | _ => .error .wrongKind

def readRules (entries : Entries) : Except SettingsError (List Rule) := do
  (← settingMembers entries "preferred_owners").mapM readRule

def ofSettings (entries : Entries) : Except SettingsError Policy := do
  let excluded ← readExcluded entries
  let rules ← readRules entries
  return ⟨excluded, rules⟩

/-- The exclusions in the order in which they are listed: texts by code point, then the rest
by what they show. -/
def listedExclusions (p : Policy) : List Value :=
  let names := p.excluded.filterMap fun v => match v with | .text s => some s | _ => none
  let others := p.excluded.filter fun v => match v with | .text _ => false | _ => true
  (Text.sortTexts names).map Value.text ++ others.mergeSort fun v w => decide (v.shown ≤ w.shown)

end TableAtlas.Policy
