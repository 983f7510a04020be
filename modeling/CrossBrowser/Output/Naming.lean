import CrossBrowser.Config

/-! The names of generated files.

A generated file is named for the stem of its feature's file. It goes beside that file, or into the
output directory, where it keeps the folders between the root of the search and the file. -/
namespace CrossBrowser.Output

/-- The name of the file generated for a feature's file. -/
def fileName (c : Config) (source : Path) : String := source.stem?.getD "" ++ c.fileSuffix

/-- The folders between the root of the search and a file; none if it lies elsewhere. -/
def folders (source root : Path) : Path :=
  (source.parent?.bind (·.stripPrefix? root)).getD ⟨""⟩

/-- Where the file generated for a feature's file goes. -/
def path (c : Config) (source root : Path) : Path :=
  match c.outputDirectory with
  | none => source.withFileName (fileName c source)
  | some directory => (directory.join (folders source root)).join ⟨fileName c source⟩

end CrossBrowser.Output
