import CrossBrowser.Document.Json.Readable
import CrossBrowser.Document.Json.Reader
import CrossBrowser.Document.Yaml.Readable
import CrossBrowser.Error
import CrossBrowser.Feature.Reading

/-! Features from the text of files.

The extension of a file's name says which format its text is in. -/
namespace CrossBrowser

/-- The formats of documents that hold features. -/
inductive FeatureFormat where
  | yaml
  | json
  deriving DecidableEq

/-- The format of a file with this path, told by its extension in any case. -/
def FeatureFormat.ofPath? (path : Path) : Option FeatureFormat :=
  match path.extension?.map fun e => String.ofList (e.toList.map Char.toLower) with
  | some "yaml" | some "yml" => some .yaml
  | some "json" => some .json
  | _ => none

namespace Feature

/-- The feature that a JSON text holds. -/
def ofJson? (source : String) : Option Feature := do
  Feature.read (← Document.Json.parse source)

/-- The feature that a YAML text holds. -/
def ofYaml? (source : String) : Option Feature := Document.Yaml.Tree.read? Feature.read source

/-- The feature that a text holds in some format. -/
def parse? (format : FeatureFormat) (source : String) : Option Feature :=
  match format with
  | .yaml => ofYaml? source
  | .json => ofJson? source

/-- The feature that the text of a file holds, if nothing is wrong with it. -/
def ofSource (path : Path) (source : String) : Except Error Feature :=
  match FeatureFormat.ofPath? path with
  | none => .error (.unknownFormat path)
  | some format =>
    match parse? format source with
    | none => .error (.undecodedFeature path .notFeature)
    | some f =>
      match f.fault? with
      | some fault => .error (.invalidFeature fault)
      | none => .ok f

end Feature
end CrossBrowser
