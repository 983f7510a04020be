import CrossBrowser.Feature.Validity
import CrossBrowser.Path
import CrossBrowser.Text.Utf8

/-! What can go wrong, from reading a file to checking what was generated.

An error is its cause. Each has a message, a stable code, and mostly a hint at what to do. -/
namespace CrossBrowser

/-- What was being done with a file or directory. -/
inductive FileOperation where
  | read
  | createDirectory
  | write
  deriving DecidableEq

/-- The operation in words. -/
def FileOperation.name : FileOperation → String
  | .read => "read"
  | .createDirectory => "create directory"
  | .write => "write"

/-- Why a feature could not be read from a file. -/
inductive UnreadableCause where
  /-- The bytes of the file are no text. -/
  | notText (fault : Text.Utf8Fault)
  /-- The text of the file is no feature in its format. -/
  | notFeature
  deriving DecidableEq

/-- What went wrong. -/
inductive Error where
  /-- A file or directory could not be worked on. -/
  | file (operation : FileOperation) (path : Path)
  /-- There is nothing to look for files in. -/
  | walk (root : Path)
  | undecodedFeature (path : Path) (cause : UnreadableCause)
  /-- The name of a file does not say what format it has. -/
  | unknownFormat (path : Path)
  | invalidFeature (fault : FeatureFault)
  | undecodedConfig (path : Path)
  | undecodedListing (path : Path)
  /-- Some generated files are not what would be generated now. -/
  | stale (count : Nat)
  /-- Some scenarios target browsers that are not supported. -/
  | unsupported (count : Nat)
  /-- There is no listing of supported browsers to check against. -/
  | noListing
  deriving DecidableEq

namespace Error

/-- What went wrong, in words. -/
def message : Error → String
  | .file operation path => s!"failed to {operation.name} '{path.text}'"
  | .walk root => s!"failed to walk directory '{root.text}'"
  | .undecodedFeature path (.notText fault) =>
    s!"could not decode scenario model '{path.text}': not valid UTF-8: {fault.message}"
  | .undecodedFeature path .notFeature => s!"could not decode scenario model '{path.text}'"
  | .unknownFormat path => s!"unsupported model file extension for '{path.text}'"
  | .invalidFeature fault => s!"invalid scenario model: {fault.message}"
  | .undecodedConfig path => s!"could not decode configuration '{path.text}'"
  | .undecodedListing path => s!"could not decode supported browser list '{path.text}'"
  | .stale count => s!"{count} generated file(s) are out of date"
  | .unsupported count => s!"{count} browser configuration(s) are not supported"
  | .noListing => "no supported browser listing configured"

/-- The code by which tools tell errors apart. -/
def code : Error → String
  | .file .. => "browsercase::io::failed"
  | .walk _ => "browsercase::io::walk"
  | .undecodedFeature .. => "browsercase::model::decode"
  | .unknownFormat _ => "browsercase::model::extension"
  | .invalidFeature _ => "browsercase::model::invalid"
  | .undecodedConfig _ => "browsercase::config::decode"
  | .undecodedListing _ => "browsercase::browsers::decode"
  | .stale _ => "browsercase::check::stale"
  | .unsupported _ => "browsercase::browsers::unsupported"
  | .noListing => "browsercase::browsers::listing"

/-- What can be done about it, if anything is known. -/
def help : Error → Option String
  | .file .. => some "Check that the path exists and is readable/writable."
  | .walk _ => none
  | .undecodedFeature .. =>
    some "Scenario models are YAML (.yaml/.yml) or JSON (.json) documents with a \x60title\x60 and a \x60scenarios\x60 list."
  | .unknownFormat _ =>
    some "Use one of the configured model extensions (default: yaml, yml, json)."
  | .invalidFeature fault => fault.help
  | .undecodedConfig _ =>
    some "Recognized keys: namespace, output_dir, file_suffix, model_extensions, supported_browsers."
  | .undecodedListing _ =>
    some "Expected a JSON array of objects with \x60browser\x60, \x60browser_version\x60, \x60os\x60, \x60os_version\x60 and \x60device\x60 fields."
  | .stale _ => some "Run \x60browsercase generate\x60 to refresh the generated tests."
  | .unsupported _ =>
    some "Fix the \x60browser:\x60 tags or refresh the supported browser list."
  | .noListing =>
    some "Pass --supported <browsers.json> or set \x60supported_browsers\x60 in browsercase.yaml."

end Error
end CrossBrowser
