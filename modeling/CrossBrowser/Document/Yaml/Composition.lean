import CrossBrowser.Document.Yaml.Node
import CrossBrowser.Document.Yaml.Tokens

/-! The document that tokens make up.

Each kind of collection is read by a function of its own, which takes the tokens from the front of
what is left. On the way the nodes are counted, anchors are numbered, and the handles of tags are
kept. -/
namespace CrossBrowser.Document.Yaml

/-- How far the tokens have been used. -/
structure Reading where
  rest : List Token
  /-- What the handles of tags abbreviate. -/
  handles : List (String × String)
  /-- The number of nodes and ends so far. -/
  size : Nat
  /-- The numbers of the anchors by name; the last one given to a name comes first. -/
  names : List (String × Nat)
  /-- The places of anchored nodes by the numbers of their anchors; the last one comes first. -/
  places : List (Nat × Nat)

/-- Steps of using up tokens, which may fail. -/
abbrev ReadingM := StateT Reading Option

namespace ReadingM

/-- The token in front; none at the end. -/
def peek? : ReadingM (Option Token) := return (← get).rest.head?

/-- Uses up the token in front. -/
def next : ReadingM Unit := modify fun r => { r with rest := r.rest.drop 1 }

/-- Uses up the token in front if it is this one. -/
def next? (t : Token) : ReadingM Bool := do
  if (← peek?) = some t then next; return true
  else return false

/-- Uses up the token in front, which must be this one. -/
def expect (t : Token) : ReadingM Unit := do if !(← next? t) then failure

/-- Whether the token in front is one of these. -/
def among (ts : List Token) : ReadingM Bool := return (← peek?).any (· ∈ ts)

/-- Counts a node or end, and gives the number of those before it. -/
def count : ReadingM Nat := do
  let r ← get
  set { r with size := r.size + 1 }
  return r.size

/-- The number of different names of anchors so far. -/
def anchorCount (names : List (String × Nat)) : Nat :=
  (names.foldr (fun (name, _) seen => if name ∈ seen then seen else name :: seen) []).length

/-- Gives the next number to an anchor before the node at a place. The number is that of the names
known before, so an anchor that repeats a name shares its number with the next new one. -/
def name (anchor : Option String) (place : Nat) : ReadingM Unit :=
  match anchor with
  | none => return
  | some name => modify fun r =>
    let number := anchorCount r.names
    { r with names := (name, number) :: r.names, places := (number, place) :: r.places }

/-- The anchor in front, if there is one. -/
def anchor? : ReadingM (Option String) := do
  match ← peek? with
  | some (.anchor name) => next; return some name
  | _ => return none

/-- The tag in front with its handle spelled out, if there is one. An unknown handle is an error. -/
def tag? : ReadingM (Option String) := do
  match ← peek? with
  | some (.tag handle suffix) =>
    next
    if handle = "" then return some suffix
    else
      match (← get).handles.lookup handle with
      | some beginning => return some (beginning ++ suffix)
      | none => failure
  | _ => return none

/-- The anchor and the tag in front, in either order. -/
def properties : ReadingM (Option String × Option String) := do
  let anchor ← anchor?
  let tag ← tag?
  if anchor.isNone then return (← anchor?, tag) else return (anchor, tag)

/-- The scalar that stands where nothing is written. -/
def nothing : ReadingM Node := return .scalar (← count) none true ""

/-- Where a node may stand. -/
inductive Context where
  /-- In a block collection. -/
  | block
  /-- In a block mapping, where a sequence need not be indented. -/
  | blockMapping
  /-- Within brackets. -/
  | flow
  deriving DecidableEq

/-- The tag of a scalar. A single exclamation mark says no more than that the scalar is to be taken
as it is written. -/
def scalarTag (tag : Option String) : Option String := if tag = some "!" then none else tag

mutual

/-- Reads a node. -/
def node (context : Context) : Nat → ReadingM Node
  | 0 => failure
  | fuel + 1 => do
    if let some (.alias name) ← peek? then
      next
      match (← get).names.lookup name with
      | some number => discard count; return .alias number
      | none => failure
    let (anchor, tag) ← properties
    let place ← count
    name anchor place
    match ← peek? with
    | some (.scalar text plain) => next; return .scalar place (scalarTag tag) plain text
    | some .flowSequenceStart => next; return .list place tag (← flowItems true fuel)
    | some .flowMappingStart => next; return .record place tag (← flowEntries true fuel)
    | some .blockSequenceStart =>
      if context = .flow then empty place anchor tag
      else next; return .list place tag (← blockItems fuel)
    | some .blockMappingStart =>
      if context = .flow then empty place anchor tag
      else next; return .record place tag (← blockEntries fuel)
    | some .blockEntry =>
      if context = .blockMapping then return .list place tag (← bareItems fuel)
      else empty place anchor tag
    | _ => empty place anchor tag
where
  /-- The scalar that stands where nothing but an anchor or tag is written. -/
  empty (place : Nat) (anchor tag : Option String) : ReadingM Node :=
    if anchor.isSome || tag.isSome then return .scalar place tag true "" else failure

/-- Reads the items of a block sequence, and its end. -/
def blockItems : Nat → ReadingM (List Node)
  | 0 => failure
  | fuel + 1 => do
    if ← next? .blockEntry then
      let item ← if ← among [.blockEntry, .blockEnd] then nothing else node .block fuel
      return item :: (← blockItems fuel)
    else
      expect .blockEnd
      discard count
      return []

/-- Reads the items of a sequence that is not indented. -/
def bareItems : Nat → ReadingM (List Node)
  | 0 => failure
  | fuel + 1 => do
    if ← next? .blockEntry then
      let item ←
        if ← among [.blockEntry, .key, .value, .blockEnd] then nothing else node .block fuel
      return item :: (← bareItems fuel)
    else
      discard count
      return []

/-- Reads the entries of a block mapping, and its end. -/
def blockEntries : Nat → ReadingM (List (Node × Node))
  | 0 => failure
  | fuel + 1 => do
    if ← next? .key then
      let key ← blockPart fuel
      let value ← if ← next? .value then blockPart fuel else nothing
      return (key, value) :: (← blockEntries fuel)
    else
      expect .blockEnd
      discard count
      return []

/-- Reads the key or the value of an entry of a block mapping. -/
def blockPart : Nat → ReadingM Node
  | 0 => failure
  | fuel + 1 => do
    if ← among [.key, .value, .blockEnd] then nothing else node .blockMapping fuel

/-- Reads the items of a sequence in brackets, and the closing bracket. All items but the first one
follow a comma. -/
def flowItems (first : Bool) : Nat → ReadingM (List Node)
  | 0 => failure
  | fuel + 1 => do
    if !(← among [.flowSequenceEnd]) && !first then expect .flowEntry
    if ← next? .flowSequenceEnd then
      discard count
      return []
    else if ← next? .key then
      let entry ← singleEntry fuel
      return entry :: (← flowItems false fuel)
    else
      let item ← node .flow fuel
      return item :: (← flowItems false fuel)

/-- Reads an entry that is an item of a sequence in brackets. A key that is missing takes up the
token in its place. -/
def singleEntry : Nat → ReadingM Node
  | 0 => failure
  | fuel + 1 => do
    let place ← count
    let key ←
      if ← among [.value, .flowEntry, .flowSequenceEnd] then next; nothing else node .flow fuel
    let value ←
      if ← next? .value then
        if ← among [.flowEntry, .flowSequenceEnd] then nothing else node .flow fuel
      else nothing
    discard count
    return .record place none [(key, value)]

/-- Reads the entries of a mapping in braces, and the closing brace. All entries but the first one
follow a comma. -/
def flowEntries (first : Bool) : Nat → ReadingM (List (Node × Node))
  | 0 => failure
  | fuel + 1 => do
    if !(← among [.flowMappingEnd]) && !first then expect .flowEntry
    if ← next? .flowMappingEnd then
      discard count
      return []
    else if ← next? .key then
      let key ← flowPart fuel
      let value ← if ← next? .value then flowPart fuel else nothing
      return (key, value) :: (← flowEntries false fuel)
    else
      let key ← node .flow fuel
      let value ← nothing
      return (key, value) :: (← flowEntries false fuel)

/-- Reads the key or the value of an entry of a mapping in braces. -/
def flowPart : Nat → ReadingM Node
  | 0 => failure
  | fuel + 1 => do
    if ← among [.value, .flowEntry, .flowMappingEnd] then nothing else node .flow fuel

end

/-- Reads the directives in front of a document. There is at most one version, which must be one
that is known, and no handle is given twice. -/
def directives (versioned : Bool) : Nat → ReadingM Unit
  | 0 => return
  | fuel + 1 => do
    match ← peek? with
    | some (.version major minor) =>
      if versioned ∨ major ≠ 1 ∨ (minor ≠ 1 ∧ minor ≠ 2) then failure
      next
      directives true fuel
    | some (.handle name beginning) =>
      let r ← get
      if r.handles.any (·.1 == name) then failure
      set { r with handles := (name, beginning) :: r.handles }
      next
      directives versioned fuel
    | _ => return

/-- The handles that need not be given. -/
def usualHandles : List (String × String) := [("!", "!"), ("!!", "tag:yaml.org,2002:")]

/-- Whether a token can begin a document that is marked as one. -/
def marksDocument : Token → Bool
  | .version .. | .handle .. | .documentStart => true
  | _ => false

/-- Reads the beginning of a document: its directives, and the mark that must follow them. -/
def documentStart : ReadingM Unit := do
  if (← peek?).any marksDocument then
    directives false ((← get).rest.length + 1)
    expect .documentStart

/-- Reads the one document of a text. A text without any counts as an empty scalar. -/
def document : ReadingM Node := do
  if (← peek?).isNone then return ← nothing
  let marked := (← peek?).any marksDocument
  documentStart
  modify fun r => { r with handles := r.handles ++ usualHandles }
  let ended := (← peek?).all fun t => t == .documentEnd || marksDocument t
  let root ← if marked && ended then nothing else node .block (2 * (← get).rest.length + 2)
  skipEnds ((← get).rest.length + 1)
  if (← peek?).isSome then failure
  return root
where
  /-- Uses up the marks in front that end a document. -/
  skipEnds : Nat → ReadingM Unit
    | 0 => return
    | fuel + 1 => do if ← next? .documentEnd then skipEnds fuel

end ReadingM

/-- The document that a text spells. None if it spells none, or more than one. -/
def Tree.ofText? (source : String) : Option Tree := do
  let tokens ← Token.ofText? source
  let (root, r) ← ReadingM.document.run ⟨tokens, [], 0, [], []⟩
  return ⟨root, r.places, r.size⟩

end CrossBrowser.Document.Yaml
