import CrossBrowser.Browser.ListingReading
import CrossBrowser.Config
import CrossBrowser.Feature.Source
import CrossBrowser.FileTree
import CrossBrowser.Text.Utf8

/-! Loading configurations, listings and features from files. -/
namespace CrossBrowser

/-- The text of a file. -/
def FileTree.readText (t : FileTree) (p : Path) : Except Error String :=
  match (t.read? p).map Text.decodeUtf8 with
  | some (.ok text) => .ok text
  | _ => .error (.file .read p)

/-- The configuration that a file holds, with its relative paths taken from the directory of the
file. -/
def Config.load (t : FileTree) (p : Path) : Except Error Config := do
  match Config.ofYaml? (← t.readText p) with
  | some c => return c.relativeTo (p.parent?.getD ⟨""⟩)
  | none => throw (.undecodedConfig p)

/-- The configuration that a directory has a file for, or else the standard one. -/
def Config.discover (t : FileTree) (directory : Path) : Except Error Config :=
  let p := directory.join ⟨Config.fileName⟩
  if t.isFile p then Config.load t p else .ok Config.standard

/-- The listing of supported browsers that a file holds. -/
def Listing.load (t : FileTree) (p : Path) : Except Error Listing := do
  match Listing.ofJson? (← t.readText p) with
  | some l => return l
  | none => throw (.undecodedListing p)

/-- The feature that a file holds. -/
def Feature.load (t : FileTree) (p : Path) : Except Error Feature := do
  Feature.ofSource p (← t.readText p)

end CrossBrowser
