/-! The tokens of a YAML document.

Indentation shows as tokens of its own: a block collection has one where it begins and one where it
ends. The end of the stream is the end of the list of tokens. -/
namespace CrossBrowser.Document.Yaml

/-- A token. -/
inductive Token where
  /-- The version of YAML that a document asks for. -/
  | version (major minor : Nat)
  /-- A handle, and the beginning that it abbreviates. -/
  | handle (name beginning : String)
  | documentStart
  | documentEnd
  | blockSequenceStart
  | blockMappingStart
  | blockEnd
  | flowSequenceStart
  | flowSequenceEnd
  | flowMappingStart
  | flowMappingEnd
  | blockEntry
  | flowEntry
  | key
  | value
  | alias (name : String)
  | anchor (name : String)
  | tag (handle suffix : String)
  /-- A scalar, and whether it is written without quotes or other marks. -/
  | scalar (text : String) (plain : Bool)
  deriving DecidableEq

end CrossBrowser.Document.Yaml
