import TableAtlas.Text.Digits

/-!
# Lexical parts of TOML

Blanks, comments, strings and keys. Line breaks are line feeds here. A reader takes a text and
returns what it has read with the text behind it, and refuses with `none`.
-/

namespace TableAtlas.Toml

open Text

def isBlank (c : Char) : Bool := c = ' ' || c = '\t'

def isBlankOrBreak (c : Char) : Bool := isBlank c || c = '\n'

/-- Control characters other than the tab stand neither in comments nor in strings. -/
def isControl (c : Char) : Bool := (c.toNat < 0x20 || c.toNat = 0x7f) && c ≠ '\t'

def isBareKeyChar (c : Char) : Bool := c.isAlphanum || c = '-' || c = '_'

def skipBlanks (s : List Char) : List Char := s.dropWhile isBlank

/-- The text behind blanks, line breaks and comments, as they stand between the items of an
array. -/
def skipFiller? (inComment : Bool) : List Char → Option (List Char)
  | [] => some []
  | c :: cs =>
    if inComment then
      if c = '\n' then skipFiller? false cs
      else if isControl c then none
      else skipFiller? true cs
    else if isBlankOrBreak c then skipFiller? false cs
    else if c = '#' then skipFiller? true cs
    else some (c :: cs)

/-- The lines behind a statement that is read up to here. -/
def lineEnd? (s : List Char) : Option (List Char) :=
  let rest :=
    match skipBlanks s with
    | '#' :: cs => if (cs.takeWhile (· ≠ '\n')).any isControl then none
      else some (cs.dropWhile (· ≠ '\n'))
    | cs => some cs
  match rest with
  | none => none
  | some [] => some []
  | some (c :: cs) => if c = '\n' then some cs else none

section Strings

def shortEscape? (c : Char) : Option Char :=
  match c with
  | 'b' => some '\x08'
  | 't' => some '\t'
  | 'n' => some '\n'
  | 'f' => some '\x0c'
  | 'r' => some '\r'
  | '"' => some '"'
  | '\\' => some '\\'
  | _ => none

/-- The character whose code is written in `width` hexadecimal digits. -/
def codedChar? (width : Nat) (s : List Char) : Option (Char × List Char) :=
  if (s.take width).length = width then
    match hexValue? (s.take width) with
    | some n => if n.isValidChar then some (Char.ofNat n, s.drop width) else none
    | none => none
  else none

/-- What the text behind a backslash stands for. In a string of several lines a backslash at
the end of a line swallows all blanks up to the next visible character. -/
def escape? (multiline : Bool) (s : List Char) : Option (List Char × List Char) :=
  match s with
  | [] => none
  | c :: cs =>
    if multiline && isBlankOrBreak c then
      match skipBlanks s with
      | '\n' :: rest => some ([], rest.dropWhile isBlankOrBreak)
      | _ => none
    else if c = 'u' then (codedChar? 4 cs).map fun r => ([r.1], r.2)
    else if c = 'U' then (codedChar? 8 cs).map fun r => ([r.1], r.2)
    else (shortEscape? c).map fun d => ([d], cs)

/-- The rest of a basic string whose characters up to here are, in reverse, `done`. -/
def basicBody? (multiline : Bool) (done : List Char) (s : List Char) :
    Option (List Char × List Char) :=
  match s with
  | [] => none
  | '"' :: cs =>
    if multiline then
      match cs with
      | '"' :: '"' :: rest => some (done.reverse, rest)
      | more => basicBody? multiline ('"' :: done) more
    else some (done.reverse, cs)
  | '\\' :: cs =>
    match escape? multiline cs with
    | none => none
    | some (chars, rest) =>
      if rest.length ≤ cs.length then basicBody? multiline (chars.reverse ++ done) rest else none
  | c :: cs =>
    if isControl c && !(multiline && c = '\n') then none
    else basicBody? multiline (c :: done) cs
termination_by s.length

/-- The rest of a literal string of several lines. -/
def literalBody? (done : List Char) : List Char → Option (List Char × List Char)
  | [] => none
  | '\'' :: '\'' :: '\'' :: rest => some (done.reverse, rest)
  | c :: cs =>
    if isControl c && c ≠ '\n' then none else literalBody? (c :: done) cs

/-- The rest of a literal string on one line. -/
def literalLine? (s : List Char) : Option (List Char × List Char) :=
  let inner := s.takeWhile (· ≠ '\'')
  match s.dropWhile (· ≠ '\'') with
  | [] => none
  | _ :: rest => if inner.any isControl then none else some (inner, rest)

/-- A string of several lines may end in one or two quotes before the three that close it. -/
def takeQuotes (quote : Char) (read : List Char × List Char) : List Char × List Char :=
  match read.2 with
  | a :: b :: rest =>
    if a = quote then
      if b = quote then (read.1 ++ [quote, quote], rest) else (read.1 ++ [quote], b :: rest)
    else read
  | [a] => if a = quote then (read.1 ++ [quote], []) else read
  | [] => read

/-- The text of a string of several lines without the line break right at its front. -/
def dropFirstBreak : List Char → List Char
  | '\n' :: cs => cs
  | cs => cs

/-- A string of any kind that begins at the front. -/
def string? : List Char → Option (List Char × List Char)
  | '"' :: '"' :: '"' :: cs => (basicBody? true [] (dropFirstBreak cs)).map (takeQuotes '"')
  | '"' :: cs => basicBody? false [] cs
  | '\'' :: '\'' :: '\'' :: cs => (literalBody? [] (dropFirstBreak cs)).map (takeQuotes '\'')
  | '\'' :: cs => literalLine? cs
  | _ => none

end Strings

section Keys

def keyPart? : List Char → Option (String × List Char)
  | '"' :: cs => (basicBody? false [] cs).map fun r => (String.ofList r.1, r.2)
  | '\'' :: cs => (literalLine? cs).map fun r => (String.ofList r.1, r.2)
  | s =>
    if (s.takeWhile isBareKeyChar).isEmpty then none
    else some (String.ofList (s.takeWhile isBareKeyChar), s.dropWhile isBareKeyChar)

/-- A key of one or more parts with dots between them, and the text behind it and its blanks. -/
def key? (s : List Char) : Option (List String × List Char) :=
  match keyPart? s with
  | none => none
  | some (part, rest) =>
    match skipBlanks rest with
    | '.' :: more =>
      if (skipBlanks more).length < s.length then
        (key? (skipBlanks more)).map fun r => (part :: r.1, r.2)
      else none
    | rest => some ([part], rest)
termination_by s.length

end Keys

end TableAtlas.Toml
