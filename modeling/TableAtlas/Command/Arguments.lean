import TableAtlas.Command.Run
import TableAtlas.Number.Numeral

/-!
# Command lines

A command line names a command and gives its parameters. A parameter of the first kind may be
given by its place or as an option, one of the second kind as an option only. The value of an
option stands behind a sign of equality or in the next argument. Behind two hyphens every
argument is given by its place.
-/

namespace TableAtlas

inductive UsageError where
  | unknownCommand
  | unknownOption (name : String)
  | missingValue (option : String)
  | repeatedOption (name : String)
  | misplacedArgument (value : String)
  | missingArgument (name : String)
  | extraArgument (value : String)
  | wrongChoice (value : String)
  deriving DecidableEq

def UsageError.text : UsageError → String
  | unknownCommand => "Unknown command"
  | unknownOption name => "Unknown option " ++ name
  | missingValue name => "Option " ++ name ++ " needs a value"
  | repeatedOption name => "Option " ++ name ++ " is given twice"
  | misplacedArgument value => "No place for argument " ++ value
  | missingArgument name => "Argument " ++ name ++ " is missing"
  | extraArgument value => "Too many arguments: " ++ value
  | wrongChoice value => "Unknown choice " ++ value

/-- What a command line asks for. -/
inductive Invocation where
  | parse (dump : Location) (format : Format)
  | relationships (dump : Location) (format : Format) (policy : Option Location)
  | diagram (dump : Location) (format : Format) (select : Option String)
      (policy : Option Location) (title : Option String)
  | sample
  | help
  deriving DecidableEq

namespace Arguments

/-- The parameters of a command: those that have a place, and those that are options only. -/
structure Signature where
  placed : List String
  named : List String

abbrev Bindings := List (String × String)

/-- An argument that begins with a hyphen is an option unless it writes a number, but the
imaginary unit alone is taken for an option. -/
def isOption (argument : String) : Bool :=
  match argument.toList with
  | ['-', 'j'] | ['-', 'J'] => true
  | '-' :: cs => !Numeral.isNumeral ('-' :: cs)
  | _ => false

/-- The name of an option, in which underscores count as hyphens. -/
def optionName (s : List Char) : String :=
  String.ofList (s.map fun c => if c = '_' then '-' else c)

/-- The name of an option and the value behind its sign of equality, if there is one. -/
def splitOption (argument : String) : String × Option String :=
  let name := optionName (argument.toList.takeWhile (· ≠ '='))
  match argument.toList.dropWhile (· ≠ '=') with
  | [] => (name, none)
  | _ :: value => (name, some (String.ofList value))

def bind (given : Bindings) (name value : String) : Except UsageError Bindings :=
  if (given.lookup name).isSome then .error (.repeatedOption name)
  else .ok (given ++ [(name, value)])

/-- Reads the options. The other arguments come back in their order. -/
def readOptions (sig : Signature) (given : Bindings) :
    List String → Except UsageError (Bindings × List String)
  | [] => .ok (given, [])
  | "--" :: rest => .ok (given, rest)
  | argument :: rest =>
    if isOption argument then do
      let (name, value?) := splitOption argument
      if !(sig.placed.contains name || sig.named.contains name) then
        throw (.unknownOption name)
      match value?, rest with
      | some value, rest => readOptions sig (← bind given name value) rest
      | none, [] => throw (.missingValue name)
      | none, value :: rest =>
        if isOption value then throw (.missingValue name)
        readOptions sig (← bind given name value) rest
    else do
      let (given, places) ← readOptions sig given rest
      return (given, argument :: places)

/-- Gives arguments to the places of a command. Once a place is taken by an option, no later
one can be filled. -/
def fillPlaces (given : Bindings) (taken : Bool) :
    List String → List String → Except UsageError Bindings
  | _, [] => .ok given
  | [], value :: _ => .error (.extraArgument value)
  | name :: names, value :: values =>
    if (given.lookup name).isSome then fillPlaces given true names (value :: values)
    else if taken then .error (.misplacedArgument value)
    else fillPlaces (given ++ [(name, value)]) false names values

def readBindings (sig : Signature) (arguments : List String) : Except UsageError Bindings := do
  let (given, places) ← readOptions sig [] arguments
  fillPlaces given false sig.placed places

def required (given : Bindings) (name : String) : Except UsageError String :=
  match given.lookup name with
  | some value => .ok value
  | none => .error (.missingArgument name)

def choice (given : Bindings) (name : String) (standard : Format) (choices : List Format) :
    Except UsageError Format :=
  match given.lookup name with
  | none => .ok standard
  | some value =>
    if choices.contains (.ofName value) then .ok (.ofName value)
    else .error (.wrongChoice value)

def dumpOption : String := "--sql-location"

def formatOption : String := "--fmt"

def policyOption : String := "--policy"

def selectOption : String := "--select"

def titleOption : String := "--title"

def location? (given : Bindings) (name : String) : Option Location :=
  (given.lookup name).map Location.ofString

def readParse (arguments : List String) : Except UsageError Invocation := do
  let given ← readBindings ⟨[dumpOption, formatOption], []⟩ arguments
  let dump ← required given dumpOption
  return .parse (.ofString dump) (← choice given formatOption .table [.table, .json])

def readRelationships (arguments : List String) : Except UsageError Invocation := do
  let given ← readBindings ⟨[dumpOption, formatOption], [policyOption]⟩ arguments
  let dump ← required given dumpOption
  return .relationships (.ofString dump) (← choice given formatOption .table [.table, .json])
    (location? given policyOption)

def readDiagram (arguments : List String) : Except UsageError Invocation := do
  let given ← readBindings
    ⟨[dumpOption, formatOption], [selectOption, policyOption, titleOption]⟩ arguments
  let dump ← required given dumpOption
  return .diagram (.ofString dump) (← choice given formatOption .json [.json, .html])
    (given.lookup selectOption) (location? given policyOption) (given.lookup titleOption)

def readSample (arguments : List String) : Except UsageError Invocation := do
  let _ ← readBindings ⟨[], []⟩ arguments
  return .sample

def reader? (command : String) : Option (List String → Except UsageError Invocation) :=
  match command with
  | "parse" => some readParse
  | "relationships" => some readRelationships
  | "diagram" => some readDiagram
  | "sample" => some readSample
  | _ => none

def helpOptions : List String := ["--help", "-h"]

def versionOptions : List String := ["--version"]

/-- Whether one of some options stands before the two hyphens. -/
def asksFor (options arguments : List String) : Bool :=
  (arguments.takeWhile (· ≠ "--")).any options.contains

/-- Whether a command line that begins with no command can be answered. Help is given only if
nothing but a single request for it is there. -/
def isRequest (arguments : List String) : Bool :=
  if asksFor helpOptions arguments then arguments.length = 1
  else arguments.isEmpty || asksFor versionOptions arguments

/-- A request for help or for the version goes before all faults of a command's arguments. -/
def read (arguments : List String) : Except UsageError Invocation :=
  match arguments.head?.bind reader? with
  | some reader =>
    if asksFor (helpOptions ++ versionOptions) arguments.tail then .ok .help
    else reader arguments.tail
  | none => if isRequest arguments then .ok .help else .error .unknownCommand

end Arguments

/-- The files that an invocation reads. -/
def Invocation.locations : Invocation → List Location
  | parse dump _ => [dump]
  | relationships dump _ policy => dump :: policy.toList
  | diagram dump _ _ policy _ => dump :: policy.toList
  | sample | help => []

def Invocation.run (t : FileTree) : Invocation → Result
  | parse dump format => Command.parse t dump format
  | relationships dump format policy => Command.relationships t dump format policy
  | diagram dump format select policy title =>
    Command.diagram t dump format select policy title
  | sample => .ok Command.sample
  | help => .ok ⟨[], [], [], [], none⟩

end TableAtlas
