import EventForge.Command.Report

/-!
# The program

The program performs one command on the files below its working directory.  Load runs on a database
of its own, in simulated time, for at most a quarter of an hour of that time.
-/

namespace EventForge.Program

/-- The variables of the environment that settings can come from. -/
def environment : IO (List (Text × Text)) := do
  let names := Settings.names.flatMap fun name => [name, name.upper]
  let found ← names.filterMapM fun name => do
    return (← IO.getEnv name.toString).map fun value => (name, Text.ofString value)
  return found

/-- The paths of the files that a command can read. -/
def candidates (arguments : List Text) (given : List (Text × Text)) : List Text :=
  let attached := arguments.filterMap fun argument =>
    (ArgumentForm.splitEquals argument).2.map fun value => value.text
  CommandLine.defaultOutput :: arguments ++ attached ++
    (arguments.map fun argument => argument.drop 2) ++ given.map (·.2)

/-- Adds the file at a path to a tree, if there is one. -/
def addFile (tree : FileTree) (path : Text) : IO FileTree := do
  let content ← (IO.FS.readBinFile (tree.resolve path).toString).toBaseIO
  match content with
  | .error _ => return tree
  | .ok content => return ((tree.put path content.toList).toOption).getD tree

/-- Writes the files that a command left with another content. -/
def keepFiles (before after : FileTree) : IO Unit := do
  for (names, entry) in after.entries do
    match entry with
    | .directory => IO.FS.createDirAll (after.absoluteText names).toString
    | .file content =>
        if before.entry? names ≠ some entry then
          IO.FS.writeBinFile (after.absoluteText names).toString
            (ByteArray.mk content.toArray)

/-- The source that the modules in a tree were made from. -/
def sources (tree : FileTree) : List Text :=
  tree.entries.filterMap fun found =>
    ((ModuleImport.load tree (tree.absoluteText found.1)).toOption).bind
      EventModule.source

/-- A line of the log. -/
def logLine (entry : LogEntry) : String := (entry.level.name ++ " " ++ entry.message).toString

/-- What the program says about its use. -/
def usage : String :=
  "usage: eventgen generate [--schema FILE] [--output FILE]\n" ++
  "       eventgen (validate | inspect) [--schema FILE]\n" ++
  "       eventgen (writer | reader | both) [--events MODULE]"

/-- The number of an exit status, and what is printed of one that is no number. -/
def exitNumber : Document → UInt32 × Text
  | .null => (0, [])
  | .bool status => (if status then 1 else 0, [])
  | .integer status => (UInt32.ofNat (Int.emod status 256).toNat, [])
  | status => (1, status.display ++ "\n")

/-- Performs a command line and gives its exit status. -/
def perform (arguments : List Text) : IO UInt32 := do
  if let .ok .help := CommandLine.ofArguments arguments then
    IO.println usage
  let given ← environment
  let here ← IO.currentDir
  let mut tree := FileTree.empty (Text.ofString here.toString)
  for path in candidates arguments given do
    tree ← addFile tree path
  for path in sources tree do
    tree ← addFile tree path
  let begun ← IO.monoNanosNow
  let invocation : Invocation :=
    { libraries := .standard, environment := given, actions := [], limit := 900
      clock := fun now => ⟨begun + (now * 1000000000).floor⟩ }
  let report := CommandLine.perform invocation { files := tree } arguments
  for entry in report.log do
    IO.eprintln (logLine entry)
  IO.print report.output.toString
  IO.eprint report.errors.toString
  keepFiles tree report.workspace.files
  match report.exit with
  | .ok status =>
      let (number, shown) := exitNumber status
      IO.eprint shown.toString
      return number
  | .error fault =>
      IO.eprintln fault.message.toString
      return 1

end EventForge.Program

def main (arguments : List String) : IO UInt32 :=
  EventForge.Program.perform (arguments.map EventForge.Text.ofString)
