import TableAtlas.File.Location
import TableAtlas.Text.Utf8

/-!
# File trees

Commands read files from a tree with a root and a working directory in it. A directory is there
if it is entered in the tree, or lies on the way to an entry or to the working directory. Two
dots lead to the directory above, and from the root to the root. A way ends at the first name
on it that is too long, if it comes that far, and a location that is too long as a whole is not
looked up at all.
-/

namespace TableAtlas

inductive FileTree.Entry where
  | file (bytes : List UInt8)
  | directory

structure FileTree where
  /-- The parts of the working directory, counted from the root. -/
  home : List String
  /-- Entries under their parts from the root; a later one replaces an earlier. -/
  entries : List (List String × FileTree.Entry)

namespace FileTree

/-- The tree of entries that are named from its working directory. -/
def below (home : List String) (entries : List (List String × Entry)) : FileTree where
  home := home
  entries := entries.map fun e => (home ++ e.1, e.2)

inductive Found where
  | file (bytes : List UInt8)
  | directory
  | missing
  | notDirectory
  | nameTooLong

def hasDirectory (t : FileTree) (parts : List String) : Bool :=
  parts.isPrefixOf t.home || t.entries.any (parts.isPrefixOf ·.1)

def entry? (t : FileTree) (parts : List String) : Option Entry :=
  match t.entries.reverse.lookup parts with
  | some e => some e
  | none => if t.hasDirectory parts then some .directory else none

/-- The place that a part leads to. -/
def step (place : List String) (part : String) : List String :=
  if part = ".." then place.dropLast else place ++ [part]

/-- What stands at the end of a way that begins in some place. -/
def follow (t : FileTree) (place : List String) : List String → Found
  | [] =>
    match t.entry? place with
    | none => .missing
    | some (.file bytes) => .file bytes
    | some .directory => .directory
  | part :: parts =>
    match t.entry? place with
    | none => .missing
    | some (.file _) => .notDirectory
    | some .directory =>
      if Location.maxNameBytes < part.utf8ByteSize then .nameTooLong
      else t.follow (step place part) parts

def find (t : FileTree) (l : Location) : Found :=
  if l.isTooLong then .nameTooLong
  else t.follow (if l.root.isEmpty then t.home else []) l.parts

end FileTree

/-- Why a file cannot be opened. -/
inductive OpenError where
  | missing
  | notDirectory
  | isDirectory
  | nameTooLong
  | nulInName
  deriving DecidableEq

namespace OpenError

def text : OpenError → String
  | missing => "[Errno 2] No such file or directory"
  | notDirectory => "[Errno 20] Not a directory"
  | isDirectory => "[Errno 21] Is a directory"
  | nameTooLong => "[Errno 36] File name too long"
  | nulInName => "embedded null byte"

/-- Whether the wording names the location. -/
def namesLocation (e : OpenError) : Bool := e ≠ nulInName

def message (e : OpenError) (l : Location) : String :=
  if e.namesLocation then e.text ++ ": " ++ l.shown else e.text

end OpenError

/-- A location at which it cannot even be found out whether something stands there. -/
structure LookupError where
  location : Location
  cause : OpenError
  deriving DecidableEq

def LookupError.message (e : LookupError) : String := e.cause.message e.location

namespace FileTree

/-- Whether something stands at a location. -/
def exists? (t : FileTree) (l : Location) : Except LookupError Bool :=
  if l.holdsNul then .ok false
  else
    match t.find l with
    | .file _ | .directory => .ok true
    | .missing | .notDirectory => .ok false
    | .nameTooLong => .error ⟨l, .nameTooLong⟩

def open? (t : FileTree) (l : Location) : Except OpenError (List UInt8) :=
  if l.holdsNul then .error .nulInName
  else
    match t.find l with
    | .file bytes => .ok bytes
    | .directory => .error .isDirectory
    | .missing => .error .missing
    | .notDirectory => .error .notDirectory
    | .nameTooLong => .error .nameTooLong

end FileTree

end TableAtlas
