import TableAtlas.Proofs.OwnerStability
import TableAtlas.Proofs.SchemaForm

/-!
# What the id of an edge says

An id puts three names together with hyphens between them. For names in general that is
ambiguous, but the names that are read from a dump are words, and words have no hyphens, so the id
of an edge says from which table it leads, along which column, and to which table. A relationship
stands for one column of one table. Hence no id comes twice where no table id does and no column
name comes twice in a table.
-/

namespace TableAtlas

open Text

/-! ## Ids of words -/

/-- Both tables and the column of a relationship have words for names. -/
structure Relationship.JoinsWords (r : Relationship) : Prop where
  source : IsWordRun r.source.toList
  target : IsWordRun r.target.toList
  column : IsWordRun r.column.toList

theorem Relationship.toList_id (r : Relationship) :
    r.id.toList = "e-".toList ++
      (r.source.toList ++ '-' :: (r.column.toList ++ '-' :: r.target.toList)) := by
  simp [id]

/-- The first two hyphens behind the opening are the ones between the names. -/
theorem Relationship.JoinsWords.eq_of_id {r s : Relationship} (hr : r.JoinsWords)
    (hs : s.JoinsWords) (h : r.id = s.id) : r = s := by
  have hyphen : isWord '-' = false := by decide
  have hchars := congrArg String.toList h
  rw [toList_id, toList_id] at hchars
  obtain ⟨hsource, hrest⟩ := append_cons_unique (hr.source.not_mem hyphen)
    (hs.source.not_mem hyphen) (List.append_cancel_left hchars)
  obtain ⟨hcolumn, htarget⟩ := append_cons_unique (hr.column.not_mem hyphen)
    (hs.column.not_mem hyphen) hrest
  rw [String.toList_inj] at hsource hcolumn htarget
  obtain ⟨_, _, _⟩ := r
  obtain ⟨_, _, _⟩ := s
  exact Relationship.mk.injEq .. ▸ ⟨hsource, htarget, hcolumn⟩

/-- Other names can give two relationships one id. -/
example : (⟨"a-b", "d", "c"⟩ : Relationship).id = (⟨"a", "d", "b-c"⟩ : Relationship).id := by
  decide

/-! ## Relationships and columns -/

/-- All columns of tables, each given by the id of its table and its own name. -/
def columnPlaces (ts : List Table) : List (String × String) :=
  ts.flatMap fun t => t.columns.map fun c => (t.id, c.name)

theorem nodup_columnPlaces {ts : List Table} (hids : (ts.map (·.id)).Nodup)
    (hnames : ∀ t ∈ ts, (t.columns.map (·.name)).Nodup) : (columnPlaces ts).Nodup := by
  rw [columnPlaces, List.nodup_flatMap]
  constructor
  · intro t ht
    have hplaces : (t.columns.map fun c => (t.id, c.name)) =
        (t.columns.map (·.name)).map fun name => (t.id, name) := by
      rw [List.map_map]
      rfl
    rw [hplaces]
    exact (hnames t ht).map fun _ _ h => (Prod.mk.inj h).2
  · refine (List.pairwise_map.1 hids).imp fun hne => List.disjoint_left.2 ?_
    intro place hs ht
    obtain ⟨c, -, rfl⟩ := List.mem_map.1 hs
    obtain ⟨d, -, hd⟩ := List.mem_map.1 ht
    exact hne (Prod.mk.inj hd).1.symm

namespace Policy

variable {p : Policy} {ts : List Table} {r : Relationship}

/-- A relationship says from which column of which table it comes. -/
theorem place_of_refer? {owners : List (String × String)} {t : Table} {c : Column}
    (h : p.refer? owners t c = some r) : (r.source, r.column) = (t.id, c.name) := by
  unfold refer? at h
  split at h
  · cases h
  · split at h
    · cases h
    · split at h
      · cases h
      · obtain rfl := Option.some.inj h
        rfl

/-- Each relationship comes from a column of its own. -/
theorem sublist_columnPlaces (p : Policy) (ts : List Table) :
    ((p.relationships ts).map fun r => (r.source, r.column)).Sublist (columnPlaces ts) := by
  rw [relationships, List.map_flatMap, columnPlaces]
  refine List.Sublist.flatMap_right ts fun t _ => ?_
  rw [List.map_filterMap, ← List.filterMap_eq_map']
  refine filterMap_sublist_filterMap t.columns fun c _ place hplace => ?_
  obtain ⟨r, hr, rfl⟩ := Option.map_eq_some_iff.1 hplace
  rw [place_of_refer? hr]

theorem joinsWords_of_mem_relationships (hts : ∀ t ∈ ts, t.WellFormed)
    (hr : r ∈ p.relationships ts) : r.JoinsWords := by
  have hid : ∀ t ∈ ts, IsWordRun t.id.toList := by
    intro t ht
    rw [(hts t ht).id_eq_name]
    exact (hts t ht).name
  obtain ⟨-, howner, -, t, ht, hsource, c, hc, hcolumn⟩ := mem_relationships_iff.1 hr
  obtain ⟨u, hu, htarget, -⟩ := exists_declares_of_owner? howner
  exact {
    source := hsource ▸ hid t ht
    target := htarget ▸ hid u hu
    column := hcolumn ▸ ((hts t ht).columns c hc).name }

theorem nodup_relationships (hids : (ts.map (·.id)).Nodup)
    (hnames : ∀ t ∈ ts, (t.columns.map (·.name)).Nodup) : (p.relationships ts).Nodup :=
  ((nodup_columnPlaces hids hnames).sublist (sublist_columnPlaces p ts)).of_map _

/-- Of the relationships between the tables of a dump, two have the same id exactly if they lead
from the same table along the same column to the same table. If no id of a table comes twice, and
no column name twice in a table, then no id of a relationship comes twice. -/
theorem edge_ids_tell_edges (p : Policy) (dump : List Char) :
    (∀ r ∈ p.relationships (Dump.parse dump).tables,
      ∀ s ∈ p.relationships (Dump.parse dump).tables,
        r.id = s.id ↔ r.source = s.source ∧ r.target = s.target ∧ r.column = s.column) ∧
    (((Dump.parse dump).tables.map (·.id)).Nodup →
      (∀ t ∈ (Dump.parse dump).tables, (t.columns.map (·.name)).Nodup) →
        ((p.relationships (Dump.parse dump).tables).map (·.id)).Nodup) := by
  have hwords : ∀ r ∈ p.relationships (Dump.parse dump).tables, r.JoinsWords := fun r hr =>
    joinsWords_of_mem_relationships (Dump.parse_wellFormed dump).tables hr
  constructor
  · intro r hr s hs
    constructor
    · intro h
      rw [(hwords r hr).eq_of_id (hwords s hs) h]
      exact ⟨rfl, rfl, rfl⟩
    · rintro ⟨hsource, htarget, hcolumn⟩
      rw [Relationship.id, Relationship.id, hsource, htarget, hcolumn]
  · intro hids hnames
    exact (nodup_relationships hids hnames).map_on fun r hr s hs h =>
      (hwords r hr).eq_of_id (hwords s hs) h

/-- A quoted name with a hyphen is read up to the hyphen only, so the ids stay apart. -/
theorem edge_ids_tell_edges_of_quoted_hyphen :
    let p := Policy.ofNames [] []
    let dump := ("CREATE TABLE 'a-b' (K int\n,PRIMARY KEY (K));" ++
      "CREATE TABLE 'b'('K-L' int);CREATE TABLE c(K int)").toList
    let column : String → Bool → Column := fun type isKey => ⟨"K", type, "", isKey, true⟩
    let r : Relationship := ⟨"b", "a", "K"⟩
    let s : Relationship := ⟨"c", "a", "K"⟩
    (Dump.parse dump).tables =
        [⟨"a", "a", "", [column "int" true]⟩, ⟨"b", "b", "", [column "unknown" false]⟩,
          ⟨"c", "c", "", [column "int" false]⟩] ∧
      p.relationships (Dump.parse dump).tables = [r, s] ∧
        (r.id = s.id ↔ r.source = s.source ∧ r.target = s.target ∧ r.column = s.column) ∧
          ((p.relationships (Dump.parse dump).tables).map (·.id)).Nodup := by
  intro p dump column r s
  have htables : (Dump.parse dump).tables =
      [⟨"a", "a", "", [column "int" true]⟩, ⟨"b", "b", "", [column "unknown" false]⟩,
        ⟨"c", "c", "", [column "int" false]⟩] := by
    decide +kernel
  have hrs : p.relationships (Dump.parse dump).tables = [r, s] := by
    rw [htables]
    decide
  have hids : ((Dump.parse dump).tables.map (·.id)).Nodup := by
    rw [htables]
    decide
  have hnames : ∀ t ∈ (Dump.parse dump).tables, (t.columns.map (·.name)).Nodup := by
    rw [htables]
    simp
  obtain ⟨hsame, hnodup⟩ := edge_ids_tell_edges p dump
  exact ⟨htables, hrs, hsame r (by simp [hrs]) s (by simp [hrs]), hnodup hids hnames⟩

end Policy

end TableAtlas
