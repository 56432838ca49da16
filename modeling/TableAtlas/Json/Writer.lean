import TableAtlas.Json.Basic

/-!
# Writing JSON

A value is written on one line, with a blank behind every comma and colon. How characters
stand in a string is left to the place where the value goes: a stream takes any character that
JSON admits, a script element in a page only ASCII and none of the characters that are markup.
-/

namespace TableAtlas.Json

open Text

/-- A 16-bit unit of a character. -/
def unitEscape (unit : Nat) : List Char := '\\' :: 'u' :: hex 4 unit

/-- The escapes that JSON demands, in their short forms where there are any. -/
def requiredEscape? (c : Char) : Option (List Char) :=
  match c with
  | '"' => some ['\\', '"']
  | '\\' => some ['\\', '\\']
  | '\n' => some ['\\', 'n']
  | '\r' => some ['\\', 'r']
  | '\t' => some ['\\', 't']
  | '\x08' => some ['\\', 'b']
  | '\x0c' => some ['\\', 'f']
  | c => if c.toNat < 0x20 then some (unitEscape c.toNat) else none

def streamChar (c : Char) : List Char := (requiredEscape? c).getD [c]

/-- The code of a character, as a pair of surrogates beyond the 16-bit range. -/
def codeEscape (c : Char) : List Char :=
  if c.toNat < 0x10000 then unitEscape c.toNat
  else
    let n := c.toNat - 0x10000
    unitEscape (0xd800 + n / 0x400) ++ unitEscape (0xdc00 + n % 0x400)

def isMarkup (c : Char) : Bool := c = '<' || c = '>' || c = '&' || c = '\''

def scriptChar (c : Char) : List Char :=
  (requiredEscape? c).getD (if c.toNat < 0x7f && !isMarkup c then [c] else codeEscape c)

section

variable (escape : Char → List Char)

def writeString (s : String) : List Char := '"' :: (s.toList.flatMap escape ++ ['"'])

mutual

def write : Json → List Char
  | null => "null".toList
  | bool true => "true".toList
  | bool false => "false".toList
  | number n => signedDecimal n
  | string s => writeString escape s
  | array xs => '[' :: (writeItems xs ++ [']'])
  | object fields => '\x7b' :: (writeFields fields ++ ['\x7d'])

def writeItems : List Json → List Char
  | [] => []
  | [x] => write x
  | x :: y :: xs => write x ++ ',' :: ' ' :: writeItems (y :: xs)

def writeFields : List (String × Json) → List Char
  | [] => []
  | [(name, x)] => writeString escape name ++ ':' :: ' ' :: write x
  | (name, x) :: y :: fields =>
    writeString escape name ++ ':' :: ' ' :: (write x ++ ',' :: ' ' :: writeFields (y :: fields))

end

end

/-- The text of a value on a stream. -/
def streamText (j : Json) : List Char := write streamChar j

/-- The text of a value in a script element, with the fields of objects sorted. -/
def scriptText (j : Json) : List Char := write scriptChar j.sorted

end TableAtlas.Json
