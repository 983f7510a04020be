import CrossBrowser.Command.Arguments
import CrossBrowser.Command.Run

/-! The program.

A command runs on a tree of files in memory. What it may need is read into the tree beforehand, and
what it has changed is written afterwards. -/
namespace CrossBrowser.Program

/-- Where the working directory lies. -/
def workingLocation : IO Location :=
  return (Path.mk (← IO.currentDir).toString).parts.filter (· ≠ "")

/-- Reads what lies at a location into a tree; everything below it too, if `deep`. -/
partial def readEntry (t : FileTree) (l : Location) (deep : Bool) : IO FileTree := do
  let place := (← IO.currentDir) / ("/" ++ "/".intercalate l)
  if ← place.isDir then
    let mut t := if l = [] then t else t.put l .directory
    if deep then
      for child in ← place.readDir do
        t ← readEntry t (l ++ [child.fileName]) true
    return t
  else if ← place.pathExists then
    return t.put l (.file (← IO.FS.readBinFile place))
  else
    return t

/-- Reads what a path leads through into a tree, and what it leads to. -/
def readPath (t : FileTree) (p : Path) (deep : Bool) : IO FileTree := do
  let mut t := t
  let mut l := t.startOf p
  for part in p.parts do
    t ← readEntry t l false
    l := FileTree.stepTo l part
  readEntry t l deep

/-- The path at which a command looks for features, if it does. -/
def searchedPath? : Command → Option Path
  | .generate path _ | .check path _ | .verify path _ => some path
  | .print file _ | .plan file _ => some file
  | .classify .. => none

/-- The configuration that a command generates files with, if it does and keeps them. -/
def outputConfig? (c : Config) : Command → Option Config
  | .generate _ options | .check _ options => some (c.withOptions options)
  | _ => none

/-- Reads all that an invocation may need into a tree. -/
def readNeeded (i : Invocation) (t : FileTree) : IO FileTree := do
  let mut t ← readPath t (i.config.getD ((Path.mk ".").join ⟨Config.fileName⟩)) false
  let .ok c := i.loadConfig t | return t
  let listing :=
    match i.command with
    | .verify _ listing => listing <|> c.supportedBrowsers
    | _ => c.supportedBrowsers
  if let some p := listing then
    t ← readPath t p false
  if let some p := searchedPath? i.command then
    t ← readPath t p true
    if let some c := outputConfig? c i.command then
      if let .ok files := GeneratedFile.generateAll t c p then
        for g in files do
          t ← readPath t g.output false
  return t

/-- Writes what is in a tree but was not in it before. Directories come before what lies in them. -/
def writeChanges (before after : FileTree) : IO Unit := do
  let entries := after.entries.mergeSort fun a b => a.1.length ≤ b.1.length
  for (l, e) in entries do
    let place := (← IO.currentDir) / ("/" ++ "/".intercalate l)
    match e, before.occupant? l with
    | .directory, none => IO.FS.createDirAll place
    | .file contents, some (.file old) =>
      if contents != old then IO.FS.writeBinFile place contents
    | .file contents, none => IO.FS.writeBinFile place contents
    | _, _ => pure ()

/-- Tells what went wrong. -/
def reportError (e : Error) : IO Unit := do
  IO.eprintln s!"{e.code}: {e.message}"
  if let some help := e.help then
    IO.eprintln s!"  help: {help}"

/-- Runs what is called for, and gives the exit code. -/
def runInvocation (i : Invocation) : IO UInt32 := do
  let before ← readNeeded i (.empty (← workingLocation))
  let (after, report) := i.run before
  writeChanges before after
  IO.print report.text
  match report.error? with
  | none => return 0
  | some e =>
    reportError e
    return 1

end CrossBrowser.Program

open CrossBrowser

/-- Runs the program on its arguments. -/
def main (arguments : List String) : IO UInt32 := do
  match Arguments.parse arguments with
  | .ok i => Program.runInvocation i
  | .error .refused =>
    IO.eprintln usageText
    return 2
  | .error stop =>
    IO.print stop.text
    return 0
