import TableAtlas.Config.Value

/-!
# Assembling a tree of settings

A TOML text sets values one by one under paths of keys, and headers say under which path the
next ones go. No value is set twice, and no table is opened twice: neither one that a header or
a dotted key has opened, nor one that was written inline as a value. An array of tables grows
with every header for it, and what follows goes into its last table.
-/

namespace TableAtlas.Toml

open Config

abbrev Path := List String

/-- The entries with a value under a name, in the place of an earlier one or at the end. -/
def put (name : String) (v : Value) : Entries → Entries
  | [] => [(name, v)]
  | (n, w) :: es => if n = name then (name, v) :: es else (n, w) :: put name v es

/-- Changes the table under a path, which is opened where there is none. A path goes through
the last table of an array of tables if `throughLists` says so. -/
def change (throughLists : Bool) (f : Entries → Option Entries) :
    Path → Entries → Option Entries
  | [], es => f es
  | name :: path, es =>
    match es.lookup name with
    | none => (change throughLists f path []).map fun sub => put name (.group sub) es
    | some (.group sub) =>
      (change throughLists f path sub).map fun sub => put name (.group sub) es
    | some (.list xs) =>
      match throughLists, xs.getLast? with
      | true, some (.group sub) =>
        (change throughLists f path sub).map fun sub =>
          put name (.list (xs.dropLast ++ [.group sub])) es
      | _, _ => none
    | some _ => none

/-- Sets a name that is not set yet. -/
def setNew (name : String) (v : Value) (es : Entries) : Option Entries :=
  match es.lookup name with
  | none => some (es ++ [(name, v)])
  | some _ => none

/-- Adds an empty table to the array of tables under a name. -/
def appendTable (name : String) (es : Entries) : Option Entries :=
  match es.lookup name with
  | none => some (es ++ [(name, .list [.group []])])
  | some (.list xs) => some (put name (.list (xs ++ [.group []])) es)
  | some _ => none

def isCompound : Value → Bool
  | .list _ | .group _ => true
  | _ => false

/-- Whether a path leads to or into a value that was written inline. -/
def isFrozen (frozen : List Path) (path : Path) : Bool := frozen.any (·.isPrefixOf path)

/-- The table to which a dotted key belongs, and the last part of the key. -/
def splitKey (key : Path) : Path × String := (key.dropLast, key.getLastD "")

/-- The entries of an inline table and the paths of the compound values in it. -/
structure InlineTable where
  entries : Entries
  frozen : List Path

def InlineTable.empty : InlineTable := ⟨[], []⟩

def InlineTable.set (t : InlineTable) (key : Path) (v : Value) : Option InlineTable :=
  if isFrozen t.frozen key then none
  else
    (change false (setNew (splitKey key).2 v) (splitKey key).1 t.entries).map fun es =>
      ⟨es, if isCompound v then key :: t.frozen else t.frozen⟩

/-- A tree under construction. Under the path `header` the next values are set; `opened` are
the tables that no header may open again, `frozen` the values written inline, and `dotted` the
tables that dotted keys have opened since the last header. -/
structure Assembly where
  entries : Entries
  header : Path
  opened : List Path
  frozen : List Path
  dotted : List Path

namespace Assembly

def empty : Assembly := ⟨[], [], [], [], []⟩

/-- The paths of the tables that the parts of a dotted key before its last one name. -/
def dottedPaths (a : Assembly) (key : Path) : List Path :=
  (List.range (key.length - 1)).map fun i => a.header ++ key.take (i + 1)

def set (a : Assembly) (key : Path) (v : Value) : Option Assembly :=
  let parent := a.header ++ (splitKey key).1
  if (a.dottedPaths key).any a.opened.contains || isFrozen a.frozen parent then none
  else
    (change true (setNew (splitKey key).2 v) parent a.entries).map fun es =>
      { a with
        entries := es
        frozen := if isCompound v then (a.header ++ key) :: a.frozen else a.frozen
        dotted := a.dottedPaths key ++ a.dotted }

/-- What dotted keys have opened stays open to them up to the next header only. -/
def closeDotted (a : Assembly) : Assembly :=
  { a with opened := a.dotted ++ a.opened, dotted := [] }

def openTable (a : Assembly) (key : Path) : Option Assembly :=
  let a := a.closeDotted
  if a.opened.contains key || isFrozen a.frozen key then none
  else
    (change true some key a.entries).map fun es =>
      { a with entries := es, header := key, opened := key :: a.opened }

def openListTable (a : Assembly) (key : Path) : Option Assembly :=
  let a := a.closeDotted
  if isFrozen a.frozen key then none
  else
    (change true (appendTable (splitKey key).2) (splitKey key).1 a.entries).map fun es =>
      { a with
        entries := es
        header := key
        opened := key :: a.opened.filter (!key.isPrefixOf ·)
        frozen := a.frozen.filter (!key.isPrefixOf ·) }

end Assembly

end TableAtlas.Toml
