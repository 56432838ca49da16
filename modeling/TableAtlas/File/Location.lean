import TableAtlas.Text.Quoted

/-!
# Locations of files

A location is written with slashes between its parts. Parts that are empty or a single dot say
nothing and are dropped, so `./a` and `a//.` are the location `a`, and a location without parts
is a dot. Two slashes at the front, but not three, are a root of their own.
-/

namespace TableAtlas

structure Location where
  root : String
  parts : List String
  deriving DecidableEq

namespace Location

def rootOf : List Char → String
  | '/' :: '/' :: '/' :: _ => "/"
  | '/' :: '/' :: _ => "//"
  | '/' :: _ => "/"
  | _ => ""

def isPart (part : List Char) : Bool := !part.isEmpty && part ≠ ['.']

def ofString (s : String) : Location where
  root := rootOf s.toList
  parts := ((s.toList.splitOn '/').filter isPart).map String.ofList

/-- Names and whole locations of more bytes are not looked up. -/
def maxNameBytes : Nat := 255

def maxBytes : Nat := 4095

def toString (l : Location) : String :=
  if l.root.isEmpty && l.parts.isEmpty then "." else l.root ++ "/".intercalate l.parts

/-- The last part, empty where there is none. -/
def name (l : Location) : List Char := (l.parts.getLastD "").toList

/-- A name without its suffix, and the suffix from its dot on. The suffix begins at the last
dot, unless that is the first or the last character of the name. -/
def splitName (name : List Char) : List Char × List Char :=
  let behind := (name.reverse.takeWhile (· ≠ '.')).reverse
  let stem := name.take (name.length - (behind.length + 1))
  if stem.isEmpty || behind.isEmpty then (name, [])
  else (stem, '.' :: behind)

def stem (l : Location) : String := String.ofList (splitName l.name).1

def suffix (l : Location) : List Char := (splitName l.name).2

def isTooLong (l : Location) : Bool := maxBytes < l.toString.utf8ByteSize

/-- No file has a name with the character NUL. -/
def holdsNul (l : Location) : Bool := l.toString.toList.contains '\x00'

/-- The location in quotes, as reports on files show it. -/
def shown (l : Location) : String := String.ofList (Text.quoted l.toString.toList)

end Location

end TableAtlas
