import TableAtlas.File.Tree
import TableAtlas.Policy.Settings
import TableAtlas.Toml.Reader

/-!
# Policy files

A policy file is a TOML text in UTF-8. A file that cannot be opened, is no TOML or does not
hold a policy is reported by its name. Names that no file can have, bytes that are no text and
whole numbers that are too long to be read are reported by their own messages. The recursion limit
of an interpreter, which very deep nesting in a file would exceed, is left out, as in the reader of
TOML.
-/

namespace TableAtlas.Policy

inductive FileError where
  | unopened (cause : OpenError)
  | undecodable (fault : Text.Utf8.Fault)
  | malformed
  | integerTooLong (digits : Nat)
  | settings (cause : SettingsError)
  deriving DecidableEq

def ofText (s : List Char) : Except FileError Policy :=
  match Toml.read s with
  | .error .malformed => .error .malformed
  | .error (.integerTooLong digits) => .error (.integerTooLong digits)
  | .ok entries =>
    match ofSettings entries with
    | .error cause => .error (.settings cause)
    | .ok p => .ok p

def ofBytes (bytes : List UInt8) : Except FileError Policy :=
  match Text.Utf8.decode bytes with
  | .error fault => .error (.undecodable fault)
  | .ok s => ofText s

def load (t : FileTree) (l : Location) : Except FileError Policy :=
  match t.open? l with
  | .error cause => .error (.unopened cause)
  | .ok bytes => ofBytes bytes

/-- What is wrong with the settings. `<TypeError>` stands for the interpreter's own wording of what
is wrong with a value of the wrong kind, which is not reproduced. -/
def SettingsError.detail : SettingsError → String
  | .wrongKind => "<TypeError>"
  | .missingColumn => "'column'"
  | .missingTable => "'table'"

namespace FileError

def named (l : Location) (detail : String) : String :=
  "Invalid relationship policy file " ++ l.toString ++ ": " ++ detail

/-- What is reported of the file. `<TOMLDecodeError>` stands for the TOML reader's own wording of
what is wrong with a text, which is not reproduced. -/
def message (l : Location) : FileError → String
  | unopened cause =>
    if cause.namesLocation then named l (cause.message l) else cause.message l
  | undecodable fault => fault.message
  | malformed => named l "<TOMLDecodeError>"
  | integerTooLong digits =>
    "Exceeds the limit (4300 digits) for integer string conversion: value has " ++
      Text.decimalText digits ++
      " digits; use sys.set_int_max_str_digits() to increase the limit"
  | settings cause => named l cause.detail

end FileError

end TableAtlas.Policy
