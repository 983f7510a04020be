import CrossBrowser.Config
import CrossBrowser.Error
import CrossBrowser.FileTree

/-! Finding the files that hold features.

A file is taken as it is. Below a directory, all files with an accepted extension are taken, but for
the configuration and the listing of supported browsers, in the order of their paths. -/
namespace CrossBrowser.Discovery

/-- Whether a file below a directory holds a feature. -/
def isFeatureFile (t : FileTree) (c : Config) (p : Path) : Bool :=
  c.accepts p && p.fileName? != some Config.fileName && !c.supportedBrowsers.any (t.sameFile · p)

/-- The files that hold the features to be found at a path. -/
def featureFiles (t : FileTree) (c : Config) (root : Path) : Except Error (List Path) :=
  if t.isFile root then .ok [root]
  else
    match t.walk? root with
    | none => .error (.walk root)
    | some paths => .ok ((paths.filter (isFeatureFile t c)).mergeSort Path.le)

end CrossBrowser.Discovery
