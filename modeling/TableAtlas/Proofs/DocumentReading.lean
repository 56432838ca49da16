import TableAtlas.Diagram.Document

/-!
# Documents found again in their values

The fields of a document are found by their names. So a document is found again in its value,
also where the fields of every object have been sorted.
-/

namespace TableAtlas

namespace Json

section Fields

@[simp] theorem sorted_null : null.sorted = null := rfl

@[simp] theorem sorted_bool (b : Bool) : (bool b).sorted = bool b := rfl

@[simp] theorem sorted_number (n : Int) : (number n).sorted = number n := rfl

@[simp] theorem sorted_string (s : String) : (string s).sorted = string s := rfl

/-- Among names that differ, the first field of a name is the only one. -/
theorem lookup_eq_some_iff_mem {fields : List (String × Json)} (h : (fields.map Prod.fst).Nodup)
    {name : String} {x : Json} : fields.lookup name = some x ↔ (name, x) ∈ fields := by
  induction fields with
  | nil => simp
  | cons field fields ih =>
    obtain ⟨other, y⟩ := field
    rw [List.map_cons, List.nodup_cons] at h
    rw [List.lookup_cons, List.mem_cons, Prod.mk.injEq]
    by_cases heq : name = other
    · subst heq
      have hnew : ∀ z, (name, z) ∉ fields := fun z hz => h.1 (List.mem_map.2 ⟨_, hz, rfl⟩)
      simp [hnew, eq_comm]
    · simp [heq, beq_false_of_ne heq, ih h.2]

theorem lookup_eq_of_perm {fields fields' : List (String × Json)} (hperm : fields.Perm fields')
    (h : (fields.map Prod.fst).Nodup) (name : String) :
    fields.lookup name = fields'.lookup name := by
  have h' : (fields'.map Prod.fst).Nodup := (hperm.map Prod.fst).nodup_iff.1 h
  ext x
  rw [lookup_eq_some_iff_mem h, lookup_eq_some_iff_mem h', hperm.mem_iff]

theorem sortedList_eq_map (xs : List Json) : sortedList xs = xs.map sorted := by
  induction xs with
  | nil => rfl
  | cons x xs ih => rw [sortedList, ih, List.map_cons]

theorem map_fst_sortedFields (fields : List (String × Json)) :
    (sortedFields fields).map Prod.fst = fields.map Prod.fst := by
  induction fields with
  | nil => rfl
  | cons field fields ih => simp [sortedFields, ih]

theorem lookup_sortedFields (fields : List (String × Json)) (name : String) :
    (sortedFields fields).lookup name = (fields.lookup name).map sorted := by
  induction fields with
  | nil => rfl
  | cons field fields ih =>
    rw [sortedFields, List.lookup_cons, List.lookup_cons, ih]
    split <;> rfl

/-- Sorting leaves every field under its name. -/
theorem get?_sorted {fields : List (String × Json)} (h : (fields.map Prod.fst).Nodup)
    (name : String) : (object fields).sorted.get? name = (fields.lookup name).map sorted := by
  have hperm := List.mergeSort_perm (sortedFields fields) fun a b => decide (a.1 ≤ b.1)
  have hnodup : ((sortedFields fields).map Prod.fst).Nodup := by
    rwa [map_fst_sortedFields]
  rw [sorted, get?, ← lookup_eq_of_perm hperm.symm hnodup, lookup_sortedFields]

end Fields

section Kinds

def text? : Json → Option String
  | string s => some s
  | _ => none

def flag? : Json → Option Bool
  | bool b => some b
  | _ => none

def integer? : Json → Option Int
  | number n => some n
  | _ => none

variable {α : Type}

def optional? (f : Json → Option α) : Json → Option (Option α)
  | null => some none
  | j => (f j).map some

def listOf? (f : Json → Option α) : Json → Option (List α)
  | array xs => xs.mapM f
  | _ => none

/-- What stands under a name, read by `f`. -/
def field? (f : Json → Option α) (name : String) (j : Json) : Option α := (j.get? name).bind f

theorem field?_object (f : Json → Option α) (name : String) (fields : List (String × Json)) :
    field? f name (object fields) = (fields.lookup name).bind f := rfl

theorem field?_sorted {fields : List (String × Json)} (h : (fields.map Prod.fst).Nodup)
    (f : Json → Option α) (name : String) :
    field? f name (object fields).sorted = ((fields.lookup name).map sorted).bind f := by
  rw [field?, get?_sorted h]

theorem listOf?_array {β : Type} {f : Json → Option α} {g : β → Json} {k : β → α}
    (h : ∀ x, f (g x) = some (k x)) (xs : List β) :
    listOf? f (array (xs.map g)) = some (xs.map k) := by
  rw [listOf?]
  induction xs with
  | nil => rfl
  | cons x xs ih => simp [h, ih]

theorem listOf?_sorted {f : Json → Option α} {g : α → Json} (h : ∀ x, f (g x).sorted = some x)
    (xs : List α) : listOf? f (array (xs.map g)).sorted = some xs := by
  rw [sorted, sortedList_eq_map, List.map_map]
  simpa using listOf?_array (g := sorted ∘ g) (k := id) h xs

end Kinds

end Json

open Json

def Position.ofJson? (j : Json) : Option Position := do
  let x ← j.field? integer? "x"
  let y ← j.field? integer? "y"
  return { x, y }

def Column.ofJson? (j : Json) : Option Column := do
  let name ← j.field? text? "name"
  let type ← j.field? text? "type"
  let comment ← j.field? text? "comment"
  let isPrimaryKey ← j.field? flag? "primary_key"
  let isNullable ← j.field? flag? "nullable"
  return { name, type, comment, isPrimaryKey, isNullable }

def TableNode.ofJson? (j : Json) : Option TableNode := do
  let id ← j.field? text? "id"
  let name ← j.field? text? "name"
  let comment ← j.field? text? "comment"
  let columns ← j.field? (listOf? Column.ofJson?) "columns"
  let primaryKeys ← j.field? (listOf? text?) "primary_keys"
  let position ← j.field? Position.ofJson? "position"
  let selected ← j.field? flag? "selected"
  let dimmed ← j.field? flag? "dimmed"
  return { id, name, comment, columns, primaryKeys, position, selected, dimmed }

def Edge.ofJson? (j : Json) : Option Edge := do
  let id ← j.field? text? "id"
  let source ← j.field? text? "source"
  let target ← j.field? text? "target"
  let column ← j.field? text? "column"
  let emphasized ← j.field? flag? "emphasized"
  let dimmed ← j.field? flag? "dimmed"
  return { id, source, target, column, emphasized, dimmed }

/-- The document that a value holds, whatever the order of its fields. -/
def Document.ofJson? (j : Json) : Option Document := do
  let name ← j.field? text? "name"
  let selected ← j.field? (optional? text?) "selected"
  let tables ← j.field? (listOf? TableNode.ofJson?) "tables"
  let relationships ← j.field? (listOf? Edge.ofJson?) "relationships"
  return { name, selected, tables, relationships }

theorem Position.ofJson?_sorted (p : Position) : ofJson? p.toJson.sorted = some p := by
  simp [ofJson?, toJson, field?_sorted, List.lookup_cons, integer?]

theorem Column.ofJson?_sorted (c : Column) : ofJson? c.toJson.sorted = some c := by
  simp [ofJson?, toJson, field?_sorted, List.lookup_cons, text?, flag?]

theorem TableNode.ofJson?_sorted (t : TableNode) : ofJson? t.toJson.sorted = some t := by
  have hcolumns := listOf?_sorted Column.ofJson?_sorted t.columns
  have hkeys := listOf?_sorted (f := text?) (g := string) (fun _ => rfl) t.primaryKeys
  have hposition := t.position.ofJson?_sorted
  simp [ofJson?, toJson, field?_sorted, List.lookup_cons, hcolumns, hkeys, hposition,
    text?, flag?]

theorem Edge.ofJson?_sorted (e : Edge) : ofJson? e.toJson.sorted = some e := by
  simp [ofJson?, toJson, field?_sorted, List.lookup_cons, text?, flag?]

theorem Document.ofJson?_sorted (d : Document) : ofJson? d.toJson.sorted = some d := by
  have htables := listOf?_sorted TableNode.ofJson?_sorted d.tables
  have hedges := listOf?_sorted Edge.ofJson?_sorted d.relationships
  obtain ⟨name, selected, tables, relationships⟩ := d
  cases selected <;> simp [ofJson?, toJson, field?_sorted, List.lookup_cons, htables, hedges,
    text?, optional?]

end TableAtlas
