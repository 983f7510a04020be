import CrossBrowser.CSharp.Source
import CrossBrowser.Digest
import CrossBrowser.Discovery
import CrossBrowser.Generation
import CrossBrowser.Loading
import CrossBrowser.Output.Naming

/-! Generated files.

All files are generated before the first one is written, so nothing is written if anything cannot be
generated. A file that is there can be compared with what would be generated now. -/
namespace CrossBrowser

/-- A generated file that need not have been written. -/
structure GeneratedFile where
  /-- The file that holds the feature. -/
  source : Path
  /-- Where the generated file goes. -/
  output : Path
  contents : String
  /-- The fingerprint of the file that holds the feature. -/
  fingerprint : String
  className : String
  caseCount : Nat
  deriving DecidableEq

/-- What has become of a generated file. -/
inductive OutputStatus where
  | upToDate
  | missing
  /-- The file has another text. -/
  | stale (existing : String)
  deriving DecidableEq

namespace GeneratedFile

/-- The class generated for a feature and its source text. -/
def render (c : Config) (f : Feature) (h : CSharp.Header) :
    Except FeatureFault (TestClass × String) := do
  let testClass ← Generation.generate c.namespaceName f
  return (testClass, CSharp.source testClass h)

/-- Generates the file for the feature in a file with these bytes. -/
def ofBytes (c : Config) (source root : Path) (bytes : ByteArray) :
    Except Error GeneratedFile := do
  let text ← (Text.decodeUtf8 bytes).mapError fun fault => .undecodedFeature source (.notText fault)
  let f ← Feature.ofSource source text
  let fingerprint := Digest.fingerprint bytes
  let (testClass, contents) ← (render c f ⟨source.fileName?, some fingerprint⟩).mapError .invalidFeature
  return { source, output := Output.path c source root, contents, fingerprint
           className := testClass.name, caseCount := testClass.totalCases }

/-- Generates the file for the feature in a file. -/
def generate (t : FileTree) (c : Config) (source root : Path) : Except Error GeneratedFile :=
  match t.read? source with
  | none => .error (.file .read source)
  | some bytes => ofBytes c source root bytes

/-- The root of the search at a path: the directory of a file, or the path itself. -/
def searchRoot (t : FileTree) (path : Path) : Path :=
  if t.isFile path then path.parent?.getD ⟨""⟩ else path

/-- Generates the files for all features to be found at a path. -/
def generateAll (t : FileTree) (c : Config) (path : Path) : Except Error (List GeneratedFile) := do
  (← Discovery.featureFiles t c path).mapM fun source => generate t c source (searchRoot t path)

/-- Writes a generated file, and makes the directories for it. Directories that have been made stay
even if the file cannot be written. -/
def write (t : FileTree) (g : GeneratedFile) : FileTree × Except Error Unit :=
  let parent := g.output.parent?.getD ⟨""⟩
  let (t, made) := if parent.text = "" then (t, true) else t.makeDirectories parent
  if !made then (t, .error (.file .createDirectory parent))
  else
    match t.write? g.output (Text.encodeUtf8 g.contents) with
    | some t => (t, .ok ())
    | none => (t, .error (.file .write g.output))

/-- Compares a generated file with what is there. -/
def check (t : FileTree) (g : GeneratedFile) : Except Error OutputStatus :=
  if !t.contains g.output then .ok .missing
  else do
    let existing ← t.readText g.output
    return if existing = g.contents then .upToDate else .stale existing

end GeneratedFile
end CrossBrowser
