import TableAtlas.Policy.File
import TableAtlas.Proofs.ByteReading
import TableAtlas.Proofs.TomlReading

/-!
# Policies read back

A policy is written as an array of the names that it excludes and a table for each of its rules.
Whatever is written so is read back: the exclusions as a set, the rules in their order, so that a
rule has the rank of its first place.
-/

namespace TableAtlas.Policy

open Text Config Toml

section Writing

variable (w : Style)

def ruleText (r : String × String) : List Char :=
  listTableLine "preferred_owners" ++ settingLine "column" (w.string r.1) ++
    settingLine "table" (w.string r.2)

/-- The policy file with some exclusions and with rules that give the column named first to the
table named second. -/
def fileText (excluded : List String) (rules : List (String × String)) : List Char :=
  settingLine "excluded_columns" (w.array excluded) ++ rules.flatMap (ruleText w)

end Writing

/-! ## The tree of settings -/

def ruleGroup (r : String × String) : Value :=
  .group [("column", .text r.1), ("table", .text r.2)]

def settingsTree (excluded : List String) (rules : List (String × String)) : Entries :=
  ("excluded_columns", .list (excluded.map .text)) ::
    if rules.isEmpty then [] else [("preferred_owners", .list (rules.map ruleGroup))]

/-- Whether the exclusions and some rules are read. -/
structure Gathers (excluded : List String) (rules : List (String × String)) (a : Assembly) :
    Prop where
  entries : a.entries = settingsTree excluded rules
  frozen : a.frozen = [["excluded_columns"]]
  dotted : a.dotted = []

/-- Whether some settings of a further rule are read besides. -/
structure Extends (excluded : List String) (rules : List (String × String)) (sub : Entries)
    (a : Assembly) : Prop where
  entries : a.entries = [("excluded_columns", .list (excluded.map .text)),
    ("preferred_owners", .list (rules.map ruleGroup ++ [.group sub]))]
  header : a.header = ["preferred_owners"]
  frozen : a.frozen = [["excluded_columns"]]
  dotted : a.dotted = []

section Tree

variable {excluded : List String} {rules : List (String × String)} {a : Assembly}

theorem set_excluded (excluded : List String) :
    ∃ a, Assembly.empty.set ["excluded_columns"] (.list (excluded.map .text)) = some a ∧
      Gathers excluded [] a :=
  ⟨_, rfl, rfl, rfl, rfl⟩

theorem Gathers.openListTable (h : Gathers excluded rules a) :
    ∃ a', a.openListTable ["preferred_owners"] = some a' ∧ Extends excluded rules [] a' := by
  have hfree : isFrozen [["excluded_columns"]] ["preferred_owners"] = false := by decide
  have hentries : change true (appendTable "preferred_owners") [] (settingsTree excluded rules) =
      some [("excluded_columns", .list (excluded.map .text)),
        ("preferred_owners", .list (rules.map ruleGroup ++ [.group []]))] := by
    cases rules with
    | nil => rfl
    | cons r rules => rfl
  simp only [Assembly.openListTable, Assembly.closeDotted, h.frozen, hfree, h.entries, splitKey,
    List.dropLast_singleton, List.getLastD_cons, List.getLastD_nil, hentries]
  exact ⟨_, rfl, rfl, rfl, rfl, rfl⟩

theorem Extends.set {sub : Entries} (h : Extends excluded rules sub a) (name s : String)
    (hnew : sub.lookup name = none) :
    ∃ a', a.set [name] (.text s) = some a' ∧
      Extends excluded rules (sub ++ [(name, .text s)]) a' := by
  have hfree : isFrozen [["excluded_columns"]] ["preferred_owners"] = false := by decide
  have hentries : change true (setNew name (.text s)) ["preferred_owners"]
      [("excluded_columns", .list (excluded.map .text)),
        ("preferred_owners", .list (rules.map ruleGroup ++ [.group sub]))] =
      some [("excluded_columns", .list (excluded.map .text)),
        ("preferred_owners",
          .list (rules.map ruleGroup ++ [.group (sub ++ [(name, .text s)])]))] := by
    simp [change, List.lookup_cons, setNew, hnew, put]
  have hpaths : a.dottedPaths [name] = [] := rfl
  simp only [Assembly.set, hpaths, h.frozen, h.entries, h.header, splitKey,
    List.dropLast_singleton, List.getLastD_cons, List.getLastD_nil, List.append_nil, hfree,
    hentries]
  exact ⟨_, rfl, rfl, rfl, rfl, h.dotted⟩

theorem Extends.gathers {r : String × String}
    (h : Extends excluded rules [("column", .text r.1), ("table", .text r.2)] a) :
    Gathers excluded (rules ++ [r]) a where
  entries := by simp [h.entries, settingsTree, ruleGroup]
  frozen := h.frozen
  dotted := h.dotted

/-! ## The text -/

variable {w : Style} {rest : List Char}

theorem readFrom_string {a' : Assembly} {name s : String} (hne : name.toList ≠ [])
    (hbare : ∀ c ∈ name.toList, isBareKeyChar c = true) (hset : a.set [name] (.text s) = some a') :
    readFrom a (settingLine name (w.string s) ++ rest) = readFrom a' rest := by
  apply readFrom_settingLine hne hbare _ _ hset
  · exact forall_mem_head?_cons (by decide)
  · intro depth
    exact value_string (depth + 1) s (forall_mem_head?_cons (by decide))

/-- A table of a rule is read as one more rule. -/
theorem readFrom_ruleText (h : Gathers excluded rules a) (r : String × String) :
    ∃ a', readFrom a (ruleText w r ++ rest) = readFrom a' rest ∧
      Gathers excluded (rules ++ [r]) a' := by
  obtain ⟨b, hb, hopen⟩ := h.openListTable
  obtain ⟨c, hc, hcolumn⟩ := hopen.set "column" r.1 rfl
  obtain ⟨d, hd, htable⟩ := hcolumn.set "table" r.2 rfl
  refine ⟨d, ?_, Extends.gathers htable⟩
  rw [ruleText, List.append_assoc, List.append_assoc,
    readFrom_listTableLine (by decide) (by decide) hb,
    readFrom_string (by decide) (by decide) hc, readFrom_string (by decide) (by decide) hd]

theorem readFrom_rules (h : Gathers excluded rules a) (rs : List (String × String)) :
    readFrom a (rs.flatMap (ruleText w)) = .ok (settingsTree excluded (rules ++ rs)) := by
  induction rs generalizing rules a with
  | nil =>
    rw [List.flatMap_nil, readFrom, List.append_nil, ← h.entries]
    rfl
  | cons r rs ih =>
    obtain ⟨a', hread, ha'⟩ : ∃ a', readFrom a (ruleText w r ++ rs.flatMap (ruleText w)) =
        readFrom a' (rs.flatMap (ruleText w)) ∧ Gathers excluded (rules ++ [r]) a' :=
      readFrom_ruleText h r
    rw [List.flatMap_cons, hread, ih ha']
    simp

end Tree

section Text

theorem joinBreaks_eq_self {s : List Char} (h : '\r' ∉ s) : joinBreaks s = s := by
  induction s with
  | nil => rfl
  | cons c s ih =>
    rw [List.mem_cons, not_or] at h
    rw [joinBreaks, ih h.2]
    rintro t rfl -
    exact h.1 rfl

variable (w : Style)

theorem return_not_mem_hex (width n : Nat) : '\r' ∉ hex width n := by
  induction width generalizing n with
  | zero => simp [hex]
  | succ width ih =>
    have hdigit : ∀ d : Fin 16, '\r' ≠ Nat.digitChar d := by decide
    have hlast := hdigit ⟨n % 16, Nat.mod_lt n (by decide)⟩
    simp [hex, ih, hlast]

theorem return_not_mem_escape (c : Char) : '\r' ∉ w.escape c := by
  unfold Style.escape
  split
  case isTrue h =>
    rcases (by simpa using h : c = '"' ∨ c = '\\') with rfl | rfl
    · decide
    · decide
  case isFalse =>
    split
    case isTrue => simp [return_not_mem_hex]
    case isFalse h =>
      intro hc
      obtain rfl : '\r' = c := by simpa using hc
      exact h (w.isCoded_of_isControl '\r' (by decide))

theorem return_not_mem_string (s : String) : '\r' ∉ w.string s := by
  simp [Style.string, return_not_mem_escape]

theorem return_not_mem_array (strings : List String) : '\r' ∉ w.array strings := by
  have hgap : '\r' ∉ w.gap := by
    intro h
    exact absurd (w.isBlankOrBreak_of_mem_gap '\r' h) (by decide)
  have hitems : '\r' ∉ (',' :: w.gap).intercalate (strings.map w.string) := by
    intro h
    rcases mem_intercalate h with ⟨l, hl, hmem⟩ | hmem
    · obtain ⟨s, -, rfl⟩ := List.mem_map.1 hl
      exact return_not_mem_string w s hmem
    · simp [hgap] at hmem
  simp [Style.array, hitems]

theorem return_not_mem_settingLine {name : String} {value : List Char}
    (hname : '\r' ∉ name.toList) (hvalue : '\r' ∉ value) : '\r' ∉ settingLine name value := by
  simp [settingLine, hname, hvalue]

theorem return_not_mem_fileText (excluded : List String) (rules : List (String × String)) :
    '\r' ∉ fileText w excluded rules := by
  have hrule : ∀ r, '\r' ∉ ruleText w r := by
    intro r
    have hheader : '\r' ∉ listTableLine "preferred_owners" := by decide
    have hcolumn : '\r' ∉ settingLine "column" (w.string r.1) :=
      return_not_mem_settingLine (by decide) (return_not_mem_string w r.1)
    have htable : '\r' ∉ settingLine "table" (w.string r.2) :=
      return_not_mem_settingLine (by decide) (return_not_mem_string w r.2)
    simp [ruleText, hheader, hcolumn, htable]
  have hexcluded : '\r' ∉ settingLine "excluded_columns" (w.array excluded) :=
    return_not_mem_settingLine (by decide) (return_not_mem_array w excluded)
  simp [fileText, hexcluded, hrule]

theorem read_fileText (excluded : List String) (rules : List (String × String)) :
    Toml.read (fileText w excluded rules) = .ok (settingsTree excluded rules) := by
  obtain ⟨a, hset, ha⟩ := set_excluded excluded
  have hhead : ∀ c ∈ (w.array excluded).head?, Toml.isBlank c = false :=
    forall_mem_head?_cons (by decide)
  rw [Toml.read, joinBreaks_eq_self (return_not_mem_fileText w excluded rules), fileText,
    readFrom_settingLine (by decide) (by decide) hhead _ hset, readFrom_rules ha, List.nil_append]
  intro depth
  exact value_array depth excluded

end Text

/-! ## The policy -/

section Settings

theorem sameMember_text (v : Value) (s : String) : v.sameMember (.text s) = v.isText s := by
  cases v with
  | decimal x =>
    cases h : x.wholeNumber? <;> simp [Value.sameMember, Value.isText, Value.wholeNumber?, h]
  | _ => simp [Value.sameMember, Value.isText, Value.wholeNumber?]

/-- Leaving out members that are the same leaves out no name. -/
theorem any_isText_distinctMembers (names : List String) (name : String) :
    (distinctMembers (names.map .text)).any (·.isText name) = true ↔ name ∈ names := by
  have hfold : ∀ kept : List Value,
      (((names.map .text).foldl
        (fun kept v => if kept.any (·.sameMember v) then kept else v :: kept) kept).any
          (·.isText name) = true ↔ kept.any (·.isText name) = true ∨ name ∈ names) := by
    induction names with
    | nil => simp
    | cons s names ih =>
      intro kept
      rw [List.map_cons, List.foldl_cons, ih]
      simp only [sameMember_text]
      split
      case isTrue hkept =>
        -- the name is there already
        have hsame : name = s → kept.any (·.isText name) = true := by
          rintro rfl
          exact hkept
        rw [List.mem_cons]
        tauto
      case isFalse =>
        have hhead : (Value.text s).isText name = true ↔ name = s := by
          rw [Value.isText_iff, Value.text.injEq, eq_comm]
        rw [List.any_cons, Bool.or_eq_true, hhead, List.mem_cons]
        tauto
  rw [distinctMembers, List.any_reverse, hfold]
  simp

theorem readExcluded_settingsTree (excluded : List String) (rules : List (String × String)) :
    readExcluded (settingsTree excluded rules) = .ok (distinctMembers (excluded.map .text)) := by
  have hscalar : (excluded.map Value.text).all (·.isScalar) = true := by
    simp [Value.isScalar]
  have hmembers : settingMembers (settingsTree excluded rules) "excluded_columns" =
      .ok (excluded.map .text) := rfl
  simp only [readExcluded, hmembers, bind, Except.bind, hscalar]
  rfl

theorem mapM_readRule (rules : List (String × String)) :
    (rules.map ruleGroup).mapM readRule = .ok (rules.map fun r => Rule.ofNames r.1 r.2) := by
  induction rules with
  | nil => rfl
  | cons r rules ih =>
    have hrule : readRule (ruleGroup r) = .ok (Rule.ofNames r.1 r.2) := rfl
    simp only [List.map_cons, List.mapM_cons, hrule, ih, bind, Except.bind]
    rfl

theorem readRules_settingsTree (excluded : List String) (rules : List (String × String)) :
    readRules (settingsTree excluded rules) = .ok (rules.map fun r => Rule.ofNames r.1 r.2) := by
  have hmembers : settingMembers (settingsTree excluded rules) "preferred_owners" =
      .ok (rules.map ruleGroup) := by
    cases rules with
    | nil => rfl
    | cons r rules => rfl
  simp only [readRules, hmembers, bind, Except.bind, mapM_readRule]

theorem ofSettings_settingsTree (excluded : List String) (rules : List (String × String)) :
    ofSettings (settingsTree excluded rules) =
      .ok ⟨distinctMembers (excluded.map .text), rules.map fun r => Rule.ofNames r.1 r.2⟩ := by
  simp only [ofSettings, readExcluded_settingsTree, readRules_settingsTree, bind, Except.bind]
  rfl

/-- The rank of a rule is its first place among the rules. -/
theorem findIdx_claims (rules : List (String × String)) (column table : String) :
    (rules.map fun r => Rule.ofNames r.1 r.2).findIdx (·.claims column table) =
      rules.idxOf (column, table) := by
  rw [List.findIdx_map]
  rfl

end Settings

/-- A file in which a policy is written is loaded as that policy, in every style. -/
theorem load_fileText (t : FileTree) (l : Location) (w : Style) (excluded : List String)
    (rules : List (String × String))
    (h : t.open? l = .ok (Utf8.encode (fileText w excluded rules))) :
    ∃ p, load t l = .ok p ∧ (∀ column, p.isExcluded column = true ↔ column ∈ excluded) ∧
      p.rules = rules.map (fun r => Rule.ofNames r.1 r.2) ∧
      ∀ column table, p.rank column table = rules.idxOf (column, table) := by
  obtain ⟨p, hp⟩ : ∃ p : Policy, p = ⟨distinctMembers (excluded.map .text),
      rules.map fun r => Rule.ofNames r.1 r.2⟩ := ⟨_, rfl⟩
  have hload : load t l = .ok p := by
    rw [load, h]
    simp only [ofBytes, Utf8.decode_encode, ofText, read_fileText, ofSettings_settingsTree, hp]
  subst hp
  exact ⟨_, hload, any_isText_distinctMembers excluded, rfl, findIdx_claims rules⟩

/-- Quotes, backslashes, control characters, an empty name and repeated rules. -/
theorem load_fileText_of_tree :
    let excluded := ["a\"b\\c", "\x00\n\x7f", "", "clé😀", ""]
    let rules := [("K", "t"), ("\"", "\\"), ("K", "t"), ("", "")]
    let bytes := Utf8.encode (fileText .standard excluded rules)
    let tree := FileTree.below [] [(["policy.toml"], .file bytes)]
    tree.open? ⟨"", ["policy.toml"]⟩ = .ok bytes ∧
      ∃ p, load tree ⟨"", ["policy.toml"]⟩ = .ok p ∧
        (∀ column, p.isExcluded column = true ↔ column ∈ excluded) ∧
        p.rules = rules.map (fun r => Rule.ofNames r.1 r.2) ∧
        ∀ column table, p.rank column table = rules.idxOf (column, table) := by
  intro excluded rules bytes tree
  have hopen : ∀ bytes, (FileTree.below [] [(["policy.toml"], .file bytes)]).open?
      ⟨"", ["policy.toml"]⟩ = .ok bytes := fun _ => rfl
  exact ⟨hopen bytes, load_fileText tree _ .standard excluded rules (hopen bytes)⟩

end TableAtlas.Policy
