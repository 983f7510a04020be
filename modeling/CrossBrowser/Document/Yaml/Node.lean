/-! What a YAML document holds.

A document is a tree of nodes. An alias is a leaf of the tree that stands for an anchored node, which
is found by the place that the node has in the order in which the document begins its nodes. -/
namespace CrossBrowser.Document.Yaml

/-- A node. The first number of each is its place in the document. -/
inductive Node where
  /-- A scalar, with its tag and whether it is plain. -/
  | scalar (place : Nat) (tag : Option String) (plain : Bool) (text : String)
  | list (place : Nat) (tag : Option String) (items : List Node)
  | record (place : Nat) (tag : Option String) (entries : List (Node × Node))
  /-- An alias, with the number of the anchor it refers to. -/
  | alias (anchor : Nat)

mutual

/-- The node at a place, among a node and those in it. -/
def Node.find? (place : Nat) : Node → Option Node
  | .scalar p tag plain text => if p = place then some (.scalar p tag plain text) else none
  | .list p tag items =>
    if p = place then some (.list p tag items) else Node.findItem? place items
  | .record p tag entries =>
    if p = place then some (.record p tag entries) else Node.findEntry? place entries
  | .alias _ => none

/-- The node at a place, among items and the nodes in them. -/
def Node.findItem? (place : Nat) : List Node → Option Node
  | [] => none
  | item :: rest => (Node.find? place item).or (Node.findItem? place rest)

/-- The node at a place, among entries and the nodes in them. -/
def Node.findEntry? (place : Nat) : List (Node × Node) → Option Node
  | [] => none
  | (key, value) :: rest =>
    ((Node.find? place key).or (Node.find? place value)).or (Node.findEntry? place rest)

end

/-- The tree of a document. -/
structure Tree where
  /-- The node it holds. A text without any document counts as an empty scalar. -/
  root : Node
  /-- The places of the anchored nodes, by the numbers of their anchors. -/
  anchors : List (Nat × Nat)
  /-- The number of nodes, with one more for the end of each list and record. -/
  size : Nat

/-- The node that an anchor of this number stands before. -/
def Tree.anchored? (d : Tree) (anchor : Nat) : Option Node :=
  (d.anchors.lookup anchor).bind fun place => d.root.find? place

end CrossBrowser.Document.Yaml
