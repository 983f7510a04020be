import CrossBrowser.Document.Readable
import CrossBrowser.Document.Yaml.Composition
import CrossBrowser.Document.Yaml.Scalar

/-! YAML nodes as typed values.

Where a text is asked for, every scalar is one, just as it is written. A list or record may be left
empty. An alias is followed where its value is asked for; following aliases is limited, as a short
document can spell a very large value with them. -/
namespace CrossBrowser.Document.Yaml

/-- Reading values from a document. The state is the number of aliases followed. -/
abbrev ValueM := ReaderT Tree (StateT Nat Option)

namespace ValueM

/-- How many aliases may be followed for each node of the document. -/
def aliasesPerNode : Nat := 100

/-- How many levels of nesting a node may have, its own included, to be read without regard to its
shape. The levels above it in a feature count towards the limit of 128 for a whole document. -/
def nestingLimit : Nat := 123

/-- The node that an alias stands for; any other node stands for itself. -/
def resolve : Node → ValueM Node
  | .alias anchor => do
    let d ← read
    modify (· + 1)
    if aliasesPerNode * d.size < (← get) then failure
    match d.anchored? anchor with
    | some node => return node
    | none => failure
  | node => return node

/-- The value that an optional one holds. -/
def ofOption {α : Type} : Option α → ValueM α
  | some x => return x
  | none => failure

/-- The node as a text. -/
def text (node : Node) : ValueM String := do
  match ← resolve node with
  | .scalar _ _ _ text => return text
  | _ => failure

/-- The node, or none if it says that there is nothing. -/
def present (node : Node) : ValueM (Option Node) := do
  let node ← resolve node
  match node with
  | .scalar _ tag plain text =>
    return if ← ofOption (Scalar.present? tag plain text) then some node else none
  | _ => return some node

/-- The items of a list. -/
def items (node : Node) : ValueM (List Node) := do
  match ← resolve node with
  | .list _ _ items => return items
  | .scalar _ _ true "" => return []
  | _ => failure

/-- The entries of a record with their keys as texts. -/
def namedEntries : List (Node × Node) → ValueM (List (String × Node))
  | [] => return []
  | (key, value) :: rest => do
    let name ← text key
    return (name, value) :: (← namedEntries rest)

/-- The known fields of a record. -/
def fields (strict : Bool) (known : List String) (node : Node) :
    ValueM (List (String × Node)) := do
  match ← resolve node with
  | .record _ _ entries => ofOption (knownEntries? strict known (← namedEntries entries))
  | .scalar _ _ true "" => return []
  | _ => failure

/-- Whether a list or record with this tag can be read without regard to its shape. -/
def isUsual (tag : Option String) : Bool := !tag.any Scalar.isLocal

/-- The node as a datum, of at most so many levels of nesting. -/
def datum : Nat → Node → ValueM Datum
  | 0, node => do
    match ← resolve node with
    | .scalar _ tag plain text => ofOption (Scalar.datum? tag plain text)
    | _ => failure
  | levels + 1, node => do
    match ← resolve node with
    | .scalar _ tag plain text => ofOption (Scalar.datum? tag plain text)
    | .list _ tag items =>
      if isUsual tag then return .list (← items.mapM (datum levels)) else failure
    | .record _ tag entries =>
      if isUsual tag then
        return .record (← entries.mapM fun (key, value) => do
          return (← datum levels key, ← datum levels value))
      else failure
    | .alias _ => failure

instance : Readable Node ValueM where
  text := text
  present := present
  items := items
  fields := fields
  datum := datum nestingLimit

end ValueM

/-- Reads a typed value from the document that a text spells. -/
def Tree.read? {α : Type} (value : Node → ValueM α) (source : String) : Option α := do
  let d ← Tree.ofText? source
  let (x, _) ← (value d.root).run d |>.run 0
  return x

end CrossBrowser.Document.Yaml
