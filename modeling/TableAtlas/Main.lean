import TableAtlas.Command.Arguments

/-!
# The program

Looks up the files that a command line names, runs its command on them and shows the report:
the output and the listings on standard output, the log and the messages on standard error.
-/

namespace TableAtlas.Main

def usage : List String :=
  ["Usage: table-atlas COMMAND", "",
    "  parse SQL-LOCATION [FMT]          tables of a dump (FMT: table, json)",
    "  relationships SQL-LOCATION [FMT]  references between them (FMT: table, json)",
    "      --policy FILE",
    "  diagram SQL-LOCATION [FMT]        diagram of a dump (FMT: json, html)",
    "      --select TABLE --policy FILE --title TEXT",
    "  sample                            the bundled dump"]

/-- What stands at a location, as far as it can be read. -/
def look (l : Location) : IO (Option FileTree.Entry) := do
  try
    return some (.file (← IO.FS.readBinFile l.toString).toList)
  catch _ =>
    try
      let directory ← (← IO.FS.realPath l.toString).isDir
      return if directory then some .directory else none
    catch _ => return none

/-- Enters what stands on the way to a location and at its end. -/
def survey (t : FileTree) (l : Location) : IO FileTree := do
  let mut t := t
  let mut place := if l.root.isEmpty then t.home else []
  for n in [0:l.parts.length] do
    place := FileTree.step place (l.parts.getD n "")
    if let some e ← look { l with parts := l.parts.take (n + 1) } then
      t := { t with entries := t.entries ++ [(place, e)] }
  return t

def readTree (locations : List Location) : IO FileTree := do
  let home := Location.ofString (← IO.currentDir).toString
  locations.foldlM survey ⟨home.parts, []⟩

def showReport (r : Report) : IO Unit := do
  let output ← IO.getStdout
  let messages ← IO.getStderr
  r.log.filter Record.isWarning |>.forM fun record => messages.putStrLn record.message
  output.putStr (String.ofList r.output)
  r.listings.forM fun listing => listing.lines.forM output.putStrLn
  r.messages.forM fun message => messages.putStrLn message.plain

def start (arguments : List String) : IO UInt32 := do
  match Arguments.read arguments with
  | .error cause =>
    (← IO.getStderr).putStrLn cause.text
    return 2
  | .ok .help =>
    usage.forM IO.println
    return 0
  | .ok invocation =>
    match invocation.run (← readTree invocation.locations) with
    | .ok report =>
      showReport report
      return report.exitCode.toUInt32
    | .error cause =>
      (← IO.getStderr).putStrLn cause.message
      return 1

end TableAtlas.Main

def main (arguments : List String) : IO UInt32 := TableAtlas.Main.start arguments
