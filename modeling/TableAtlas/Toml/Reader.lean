import TableAtlas.Toml.Assembly
import TableAtlas.Toml.Scalar

/-!
# Reading TOML

A text is read statement by statement, and each one is added to the tree before the next is
read, so that the first fault in the text is the one reported. Arrays and inline tables nest, and
the depth of a text is bounded by nothing but its length. A reader that runs on an interpreter also
gives up where the nesting exceeds the interpreter's recursion limit. That limit is left out.
-/

namespace TableAtlas.Toml

open Config

/-- The rest of an array behind the items, in reverse, that are read. -/
def arrayItems (item : Reader Value) (done : List Value) (s : List Char) :
    Except Fault (Value × List Char) :=
  match s with
  | ']' :: rest => .ok (.list done.reverse, rest)
  | s => do
    let (v, rest) ← item s
    match ← orMalformed (skipFiller? false rest) with
    | ']' :: rest => .ok (.list (v :: done).reverse, rest)
    | ',' :: rest =>
      let more ← orMalformed (skipFiller? false rest)
      if more.length < s.length then arrayItems item (v :: done) more else .error .malformed
    | _ => .error .malformed
termination_by s.length

/-- A key, the sign of equality and a value. -/
def keyAndValue (value : Reader Value) : Reader (Path × Value) := fun s => do
  let (key, rest) ← orMalformed (key? s)
  let rest ← orMalformed (char? '=' rest)
  let (v, rest) ← value (skipBlanks rest)
  return ((key, v), rest)

/-- The rest of an inline table that is not empty. -/
def inlineEntries (value : Reader Value) (t : InlineTable) (s : List Char) :
    Except Fault (Value × List Char) := do
  let ((key, v), rest) ← keyAndValue value s
  let t ← orMalformed (t.set key v)
  match skipBlanks rest with
  | '\x7d' :: rest => .ok (.group t.entries, rest)
  | ',' :: rest =>
    if (skipBlanks rest).length < s.length then inlineEntries value t (skipBlanks rest)
    else .error .malformed
  | _ => .error .malformed
termination_by s.length

/-- A value that nests at most `depth` deep. -/
def value : (depth : Nat) → Reader Value
  | 0, _ => .error .malformed
  | depth + 1, s =>
    match s with
    | '[' :: cs => do arrayItems (value depth) [] (← orMalformed (skipFiller? false cs))
    | '\x7b' :: cs =>
      match skipBlanks cs with
      | '\x7d' :: rest => .ok (.group [], rest)
      | cs => inlineEntries (value depth) .empty cs
    | c :: cs =>
      if c = '"' || c = '\'' then
        orMalformed ((string? (c :: cs)).map fun r => (.text (String.ofList r.1), r.2))
      else scalar (c :: cs)
    | [] => .error .malformed

def isKeyStart (c : Char) : Bool := isBareKeyChar c || c = '"' || c = '\''

/-- The key of a header between its brackets. -/
def headerKey (opening closing : List Char) : Reader Path := fun s => do
  let (key, rest) ← orMalformed (key? (skipBlanks (s.drop opening.length)))
  if closing.isPrefixOf rest then return (key, rest.drop closing.length) else throw .malformed

/-- Reads the statement or the comment at the front, whose first character is not a blank. -/
def statement (a : Assembly) (s : List Char) : Except Fault (Assembly × List Char) :=
  match s with
  | '[' :: '[' :: _ => do
    let (key, rest) ← headerKey ['[', '['] [']', ']'] s
    return (← orMalformed (a.openListTable key), rest)
  | '[' :: _ => do
    let (key, rest) ← headerKey ['['] [']'] s
    return (← orMalformed (a.openTable key), rest)
  | c :: _ =>
    if isKeyStart c then do
      let ((key, v), rest) ← keyAndValue (value s.length) s
      return (← orMalformed (a.set key v), rest)
    else if c = '#' || c = '\n' then .ok (a, s)
    else .error .malformed
  | [] => .ok (a, [])

def readFrom (a : Assembly) (s : List Char) : Except Fault Entries :=
  match skipBlanks s with
  | [] => .ok a.entries
  | line => do
    let (a, rest) ← statement a line
    let more ← orMalformed (lineEnd? rest)
    if more.length < s.length then readFrom a more else .error .malformed
termination_by s.length

/-- The text with a line feed for every pair of carriage return and line feed. -/
def joinBreaks : List Char → List Char
  | [] => []
  | '\r' :: '\n' :: cs => '\n' :: joinBreaks cs
  | c :: cs => c :: joinBreaks cs

def read (s : List Char) : Except Fault Entries := readFrom .empty (joinBreaks s)

end TableAtlas.Toml
