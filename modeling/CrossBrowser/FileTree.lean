import CrossBrowser.Path

/-! Trees of files.

A tree holds files and directories by where they lie, and the directory that relative paths start
from. A path is followed step by step: every step but the last must be to a directory that is
there, and a path that ends in a slash or dot must end in one. -/
namespace CrossBrowser

/-- Where something lies: the names of the directories down to it, and its own. -/
abbrev Location := List String

/-- What lies at a location. -/
inductive Entry where
  | directory
  | file (contents : ByteArray)

/-- A tree of files. The top of the tree is a directory that need not be listed. There are no links
in it, and no files or directories that cannot be read. -/
structure FileTree where
  /-- What lies where; of several entries for a location the first one counts. -/
  entries : List (Location × Entry)
  /-- The directory that relative paths start from. -/
  workingDirectory : Location

namespace FileTree

/-- The tree with nothing but the working directory and those above it. -/
def empty (workingDirectory : Location) : FileTree :=
  { entries := (List.range workingDirectory.length).map fun depth =>
      (workingDirectory.take (depth + 1), .directory)
    workingDirectory }

/-- What lies at a location. -/
def occupant? (t : FileTree) (l : Location) : Option Entry :=
  if l = [] then some .directory else t.entries.lookup l

/-- Whether a directory lies at a location. -/
def isDirectory (t : FileTree) (l : Location) : Bool :=
  match t.occupant? l with
  | some .directory => true
  | _ => false

/-- The contents of the file at a location. -/
def contents? (t : FileTree) (l : Location) : Option ByteArray :=
  match t.occupant? l with
  | some (.file contents) => some contents
  | _ => none

/-- Puts an entry at a location, in place of what is there. -/
def put (t : FileTree) (l : Location) (e : Entry) : FileTree :=
  { t with entries := (l, e) :: t.entries.filter (·.1 ≠ l) }

/-! ### Following paths -/

/-- The greatest number of bytes in a name. -/
def nameLimit : Nat := 255

/-- The greatest number of bytes in a path that can be followed. -/
def pathLimit : Nat := 4095

/-- Whether something can have a name. -/
def isName (name : String) : Bool := name.utf8ByteSize ≤ nameLimit

/-- Whether a path can be followed at all. The empty path cannot. -/
def isUsable (p : Path) : Bool :=
  p.text ≠ "" && p.text.utf8ByteSize ≤ pathLimit && !p.text.toList.contains '\x00'

/-- Where a path starts. -/
def startOf (t : FileTree) (p : Path) : Location := if p.isAbsolute then [] else t.workingDirectory

/-- Where a part of a path leads from a directory. -/
def stepTo (l : Location) (part : String) : Location :=
  if part = "" ∨ part = "." then l else if part = ".." then l.dropLast else l ++ [part]

/-- Where the parts of a path lead from a location. Each step must be from a directory. -/
def follow? (t : FileTree) : Location → List String → Option Location
  | l, [] => some l
  | l, part :: rest =>
    if t.isDirectory l && isName part then t.follow? (stepTo l part) rest else none

/-- The location that a path denotes, if something can lie there. -/
def locate? (t : FileTree) (p : Path) : Option Location :=
  if isUsable p then t.follow? (t.startOf p) p.parts else none

/-- The location that a path denotes, if something lies there. -/
def find? (t : FileTree) (p : Path) : Option Location :=
  (t.locate? p).filter fun l => (t.occupant? l).isSome

/-- The contents of the file that a path denotes. -/
def read? (t : FileTree) (p : Path) : Option ByteArray := (t.locate? p).bind t.contents?

/-- Whether a path denotes a file. -/
def isFile (t : FileTree) (p : Path) : Bool := (t.read? p).isSome

/-- Whether a path denotes something. -/
def contains (t : FileTree) (p : Path) : Bool := (t.find? p).isSome

/-- The location that a path denotes, if something lies there. The path is gone through name by
name, so it may be longer than one that is followed at once. -/
def resolve? (t : FileTree) (p : Path) : Option Location :=
  if p.text ≠ "" ∧ '\x00' ∉ p.text.toList then
    (t.follow? (t.startOf p) p.parts).filter fun l => (t.occupant? l).isSome
  else none

/-- Whether two paths denote the same thing; for paths one of which denotes nothing, whether they
have the same components. -/
def sameFile (t : FileTree) (p q : Path) : Bool :=
  match t.resolve? p, t.resolve? q with
  | some l, some k => l == k
  | _, _ => p.same q

/-- The paths of the files below the directory at `l`, to which the path `p` leads. -/
def filesBelow (t : FileTree) (l : Location) (p : Path) : List Path :=
  t.entries.filterMap fun (k, e) =>
    match e with
    | .file _ => (below? l k).map fun names => p.join ⟨"/".intercalate names⟩
    | .directory => none
where
  /-- The names that lead from one location to another below it. -/
  below? (l k : Location) : Option (List String) :=
    if l ≠ k ∧ l.isPrefixOf k then some (k.drop l.length) else none

/-- The paths of the files below the directory that a path denotes. None if it denotes nothing. -/
def walk? (t : FileTree) (p : Path) : Option (List Path) :=
  (t.find? p).map fun l => t.filesBelow l p

/-! ### Changing the tree -/

/-- Makes the directories that parts of a path lead through, where there are none. Gives the tree,
and where the path leads; none if a file or an impossible name is in the way. -/
def makeDirectoriesFrom (t : FileTree) : Location → List String → FileTree × Option Location
  | l, [] => (t, some l)
  | l, part :: rest =>
    let k := stepTo l part
    if !isName part then (t, none)
    else
      match t.occupant? k with
      | some .directory => makeDirectoriesFrom t k rest
      | some (.file _) => (t, none)
      | none => makeDirectoriesFrom (t.put k .directory) k rest

/-- Makes the directory that a path denotes, and those on the way to it. Also says whether it is
there then; if not, those on the way may be. -/
def makeDirectories (t : FileTree) (p : Path) : FileTree × Bool :=
  if isUsable p then
    let (t, l) := t.makeDirectoriesFrom (t.startOf p) p.parts
    (t, l.isSome)
  else (t, false)

/-- Writes a file where a path denotes one, or could. None if a directory is there, or the directory
for it is not. -/
def write? (t : FileTree) (p : Path) (contents : ByteArray) : Option FileTree := do
  let l ← t.locate? p
  if t.isDirectory l then none else some (t.put l (.file contents))

theorem occupant?_put_self (t : FileTree) {l : Location} (e : Entry) (h : l ≠ []) :
    (t.put l e).occupant? l = some e := by
  simp [occupant?, put, h]

end FileTree
end CrossBrowser
