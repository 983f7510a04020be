import CrossBrowser.Command.Basic
import CrossBrowser.Command.Report
import CrossBrowser.Output.Generated
import CrossBrowser.Text.Difference

/-! Running commands.

A command runs on a tree of files and leaves a report; only one command changes the tree. What has
been printed before a failure stays printed. -/
namespace CrossBrowser
open Output

namespace Config

/-- The configuration with what is given in place of its own. -/
def withOptions (c : Config) (o : OutputOptions) : Config :=
  { c with
    outputDirectory := o.directory <|> c.outputDirectory
    namespaceName := o.namespaceName.getD c.namespaceName }

end Config

namespace Program

/-! ### Generating and checking -/

/-- The line for a file that has been written. -/
def writtenLine (g : GeneratedFile) : String :=
  statusLine "generated" s!"{g.output.text} ({g.className}, {g.caseCount} test case(s))"

/-- Writes generated files, and reports on each. The first that cannot be written ends it. -/
def writeFiles (t : FileTree) : List GeneratedFile → FileTree × Report
  | [] => (t, .printed "")
  | g :: rest =>
    match g.write t with
    | (t, .error e) => (t, .failed e)
    | (t, .ok ()) =>
      let (t, r) := writeFiles t rest
      (t, r.after (linesOf [writtenLine g]))

/-- Generates the tests for all features at a path, and writes them. -/
def runGenerate (t : FileTree) (c : Config) (path : Path) : FileTree × Report :=
  match GeneratedFile.generateAll t c path with
  | .error e => (t, .failed e)
  | .ok files => writeFiles t files

/-- The lines for a file that has been compared. -/
def checkedLines (g : GeneratedFile) : OutputStatus → List String
  | .upToDate => [statusLine "fresh" g.output.text]
  | .missing => [statusLine "missing" g.output.text]
  | .stale existing =>
    statusLine "stale" g.output.text :: Text.showDifference existing g.contents

/-- Compares generated files with what is there, and reports on each. `stale` of those before were
not up to date. The first that cannot be compared ends it. -/
def checkFiles (t : FileTree) (stale : Nat) : List GeneratedFile → Report
  | [] => if stale = 0 then .printed "" else .failed (.stale stale)
  | g :: rest =>
    .on (g.check t) fun status =>
      (checkFiles t (if status = .upToDate then stale else stale + 1) rest).after
        (linesOf (checkedLines g status))

/-- Compares the tests for all features at a path with what has been written. -/
def runCheck (t : FileTree) (c : Config) (path : Path) : Report :=
  .on (GeneratedFile.generateAll t c path) (checkFiles t 0)

/-! ### Showing -/

/-- Prints the test class for one feature. -/
def runPrint (t : FileTree) (c : Config) (file : Path) : Report :=
  .on (GeneratedFile.generate t c file (file.parent?.getD ⟨""⟩)) fun g => .printed g.contents

/-- Sorts categories. -/
def runClassify (categories : List String) (json : Bool) : Report :=
  let c := classify categories
  .printed (linesOf (if json then [(classificationJson c).pretty] else classificationLines c))

/-- The class generated for the feature in a file. -/
def planned (t : FileTree) (c : Config) (file : Path) : Except Error TestClass := do
  (Generation.generate c.namespaceName (← Feature.load t file)).mapError .invalidFeature

/-- Lists the test cases for one feature. -/
def runPlan (t : FileTree) (c : Config) (file : Path) (json verbose : Bool) : Report :=
  .on (planned t c file) fun testClass =>
    .printed (linesOf (
      if json then [(planJson testClass).pretty]
      else planLines testClass ++ if verbose then attributeLines testClass else []))

/-! ### Verifying -/

/-- A browser that a scenario targets. -/
structure TargetedBrowser where
  scenario : String
  id : String

/-- The browsers targeted in a feature that are not supported. -/
def unsupportedIn (listing : Listing) (f : Feature) : List TargetedBrowser :=
  f.scenarios.flatMap fun s =>
    ((classify s.tags).browsers.filter (!listing.supportsId ·)).map (⟨s.title, ·⟩)

/-- The line for a browser that is not supported. -/
def unsupportedLine (source : Path) (b : TargetedBrowser) : String :=
  statusLine "unsupported" s!"{source.text} :: {b.scenario} :: {b.id}"

/-- Checks the browsers targeted in files, and reports on each that is not supported. `count` have
been found before. The first file that cannot be read ends it. -/
def verifyFiles (t : FileTree) (listing : Listing) (count : Nat) : List Path → Report
  | [] =>
    if count = 0 then .printed (linesOf [statusLine "ok" "all browser targets are supported"])
    else .failed (.unsupported count)
  | source :: rest =>
    .on (Feature.load t source) fun f =>
      let found := unsupportedIn listing f
      (verifyFiles t listing (count + found.length) rest).after
        (linesOf (found.map (unsupportedLine source)))

/-- Checks the browsers that the features at a path target against the listing in a file. That file
is not taken for a feature. -/
def runVerify (t : FileTree) (c : Config) (path : Path) (listing : Option Path) : Report :=
  match listing <|> c.supportedBrowsers with
  | none => .failed .noListing
  | some file =>
    .on (Listing.load t file) fun listing =>
      .on (Discovery.featureFiles t { c with supportedBrowsers := some file } path)
        (verifyFiles t listing 0)

/-! ### All commands -/

/-- Runs a command with a configuration. -/
def run (t : FileTree) (c : Config) (verbose : Bool) : Command → FileTree × Report
  | .generate path options => runGenerate t (c.withOptions options) path
  | .check path options => (t, runCheck t (c.withOptions options) path)
  | .print file namespaceName => (t, runPrint t (c.withOptions ⟨none, namespaceName⟩) file)
  | .classify categories json => (t, runClassify categories json)
  | .plan file json => (t, runPlan t c file json verbose)
  | .verify path listing => (t, runVerify t c path listing)

end Program

/-- The configuration for an invocation: from the file it names, or from the working directory. -/
def Invocation.loadConfig (i : Invocation) (t : FileTree) : Except Error Config :=
  match i.config with
  | some p => Config.load t p
  | none => Config.discover t ⟨"."⟩

/-- Runs what is called for. -/
def Invocation.run (i : Invocation) (t : FileTree) : FileTree × Report :=
  match i.loadConfig t with
  | .error e => (t, .failed e)
  | .ok c => Program.run t c i.verbose i.command

end CrossBrowser
