import CrossBrowser.Document.Yaml.Readable
import CrossBrowser.Path
import CrossBrowser.Text.Blank
import CrossBrowser.Text.LetterCase

/-! Configurations.

A configuration is a YAML record of which every field may be left out, but no other field may be
there. Relative paths in it are meant from the directory of its file. -/
namespace CrossBrowser
open Document Readable

/-- How to generate tests. -/
structure Config where
  /-- The namespace of the generated classes. -/
  namespaceName : String
  /-- Where generated files go; beside the features if not given. -/
  outputDirectory : Option Path
  /-- What the name of a generated file ends in, after the stem of the feature's file. -/
  fileSuffix : String
  /-- The extensions by which features are found in a directory. -/
  extensions : List String
  /-- The listing of supported browsers. -/
  supportedBrowsers : Option Path
  deriving DecidableEq

namespace Config

/-- The name of the file that a configuration is looked for in. -/
def fileName : String := "browsercase.yaml"

/-- The configuration that nothing is said in. -/
def standard : Config :=
  { namespaceName := "Generated.Features", outputDirectory := none, fileSuffix := ".feature.cs"
    extensions := ["yaml", "yml", "json"], supportedBrowsers := none }

section
variable {ν : Type} {m : Type → Type} [Monad m] [Readable ν m]

/-- Reads a path, which may say that there is none. -/
def readPath (v : ν) : m (Option Path) := do return (← optional text v).map Path.mk

/-- Reads a configuration. -/
def read (v : ν) : m Config := do
  let fields ← fields true
    ["namespace", "output_dir", "file_suffix", "model_extensions", "supported_browsers"] v
  let namespaceName ← field fields "namespace" standard.namespaceName text
  let outputDirectory ← field fields "output_dir" none readPath
  let fileSuffix ← field fields "file_suffix" standard.fileSuffix text
  let extensions ← field fields "model_extensions" standard.extensions texts
  let supportedBrowsers ← field fields "supported_browsers" none readPath
  return { namespaceName, outputDirectory, fileSuffix, extensions, supportedBrowsers }

end

/-- The configuration that a YAML text holds. A blank text says nothing. -/
def ofYaml? (source : String) : Option Config :=
  if Text.isBlankText source then some standard else Yaml.Tree.read? read source

/-- The configuration with its relative paths taken from `base`. -/
def relativeTo (c : Config) (base : Path) : Config :=
  { c with
    outputDirectory := c.outputDirectory.map base.join
    supportedBrowsers := c.supportedBrowsers.map base.join }

/-- Whether a file with this path may hold a feature, as far as its extension tells. -/
def accepts (c : Config) (path : Path) : Bool :=
  path.extension?.any fun e => c.extensions.any (Text.agreeIgnoringCase · e)

end Config
end CrossBrowser
