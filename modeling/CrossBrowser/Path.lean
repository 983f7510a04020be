/-! Paths of files.

A path is kept as it was written. What it means is its components: a single dot anywhere but at the
start of a relative path, and repeated or final slashes, say nothing. Two paths with the same
components are the same place in the order of paths, however they are written. -/
namespace CrossBrowser

/-- A path as it was written. -/
structure Path where
  text : String
  deriving DecidableEq

/-- One step of a path. -/
inductive Path.Component where
  /-- The top of all directories. -/
  | top
  /-- The current directory. -/
  | here
  /-- The directory above. -/
  | up
  | name (text : String)
  deriving DecidableEq

namespace Path

/-- The parts of a path between its slashes, as they were written. -/
def rawParts (p : Path) : List String := (p.text.toList.splitOn '/').map String.ofList

/-- Whether the path starts from the top of all directories. -/
def isAbsolute (p : Path) : Bool := p.text.toList.head? == some '/'

/-- The parts that follow the slash of an absolute path, or all parts of a relative one. -/
def parts (p : Path) : List String := if p.isAbsolute then p.rawParts.drop 1 else p.rawParts

/-- Whether a part says nothing. A single dot that begins a relative path does: it is the current
directory. -/
def isSilent (beginsRelative : Bool) (part : String) : Bool :=
  part == "" || (part == "." && !beginsRelative)

/-- Parts without the silent ones at their end. `relative` says whether the first of them begins a
relative path. The parts are given from the last to the first. -/
def dropSilentEnd (relative : Bool) : List String → List String
  | [] => []
  | part :: before =>
    if isSilent (relative && before.isEmpty) part then dropSilentEnd relative before
    else part :: before

/-- The component a part stands for; none for a part that says nothing. -/
def Component.ofPart? (beginsRelative : Bool) (part : String) : Option Component :=
  if isSilent beginsRelative part then none
  else if part = "." then some .here
  else if part = ".." then some .up
  else some (.name part)

/-- The components of parts; the first of them begins a relative path if `relative`. -/
def componentsOf (relative : Bool) : List String → List Component
  | [] => []
  | part :: rest =>
    (Component.ofPart? relative part).toList ++ rest.filterMap (Component.ofPart? false)

/-- The components of a path. -/
def components (p : Path) : List Component :=
  if p.isAbsolute then .top :: componentsOf false p.parts else componentsOf true p.parts

/-- The parts of a path from the last that says something to the first. -/
def reversedParts (p : Path) : List String := dropSilentEnd (!p.isAbsolute) p.parts.reverse

/-- The path with these parts, given from the last to the first. -/
def ofReversedParts (absolute : Bool) (parts : List String) : Path :=
  ⟨(if absolute then "/" else "") ++ "/".intercalate parts.reverse⟩

/-- The path without its last component. The top of all directories and the empty path have no
parent. -/
def parent? (p : Path) : Option Path :=
  match p.reversedParts with
  | [] => none
  | _ :: before => some (ofReversedParts p.isAbsolute (dropSilentEnd (!p.isAbsolute) before))

/-- The last component of the path, if it is a name. -/
def fileName? (p : Path) : Option String :=
  match p.reversedParts with
  | [] => none
  | part :: _ => if part = "." ∨ part = ".." then none else some part

/-- A name cut at its last dot, unless that dot comes first. -/
def splitName (name : String) : String × Option String :=
  let (after, before) := name.toList.reverse.span (· ≠ '.')
  match before with
  | [] | [_] => (name, none)
  | _ :: stem => (String.ofList stem.reverse, some (String.ofList after.reverse))

/-- The file name up to its last dot. -/
def stem? (p : Path) : Option String := p.fileName?.map fun name => (splitName name).1

/-- What follows the last dot of the file name. -/
def extension? (p : Path) : Option String := p.fileName?.bind fun name => (splitName name).2

/-- The path `q` taken from `p`: `q` itself when it is absolute. -/
def join (p q : Path) : Path :=
  if q.isAbsolute then q
  else if p.text = "" ∨ p.text.toList.getLast? = some '/' then ⟨p.text ++ q.text⟩
  else ⟨p.text ++ "/" ++ q.text⟩

/-- The path with another file name. -/
def withFileName (p : Path) (name : String) : Path :=
  if p.fileName?.isSome then (p.parent?.getD ⟨""⟩).join ⟨name⟩ else p.join ⟨name⟩

/-- Parts without as many of those at the front as the first `count` components take up, and
without the silent ones after these. -/
def dropComponents (relative : Bool) : Nat → List String → List String
  | _, [] => []
  | 0, part :: rest =>
    if isSilent relative part then dropComponents false 0 rest else part :: rest
  | count + 1, part :: rest =>
    if isSilent relative part then dropComponents false (count + 1) rest
    else dropComponents false count rest

/-- What remains of the path after the components of `base`, if it begins with them. -/
def stripPrefix? (p base : Path) : Option Path :=
  let taken := base.components.length
  if p.components.take taken ≠ base.components then none
  else if taken = 0 then some (ofReversedParts p.isAbsolute p.reversedParts)
  else
    let count := if p.isAbsolute then taken - 1 else taken
    let rest := dropComponents (!p.isAbsolute) count p.parts
    some (ofReversedParts false (dropSilentEnd false rest.reverse))

/-- Whether two paths have the same components. -/
def same (p q : Path) : Bool := p.components == q.components

/-! ### Order -/

/-- The position of a component among those of other kinds. -/
def Component.rank : Component → Nat
  | .top => 0
  | .here => 1
  | .up => 2
  | .name _ => 3

/-- The text of a name; empty for the other components. -/
def Component.nameText : Component → String
  | .name text => text
  | _ => ""

/-- Whether a component comes before another: kinds first, names by their characters. -/
def Component.before (a b : Component) : Bool :=
  a.rank < b.rank || (a.rank == b.rank && decide (a.nameText < b.nameText))

/-- Whether a list of components comes before another or is equal to it. -/
def componentsLe : List Component → List Component → Bool
  | [], _ => true
  | _ :: _, [] => false
  | a :: as, b :: bs => a.before b || (a == b && componentsLe as bs)

/-- Whether a path comes before another or has the same components. -/
def le (p q : Path) : Bool := componentsLe p.components q.components

end Path
end CrossBrowser
