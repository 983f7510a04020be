import CrossBrowser.Document.Yaml.Block
import CrossBrowser.Document.Yaml.Plain
import CrossBrowser.Document.Yaml.Properties
import CrossBrowser.Document.Yaml.Quoted

/-! The tokens that a text spells.

A token is read at a time. Two things are only known later than they are written. A collection ends
where a line is indented less, so the indentations of the collections that are open are kept. And
that something is the key of a mapping shows when the colon after it is read, so the place is kept
where a key may have begun, and the tokens for it are put in there afterwards. -/
namespace CrossBrowser.Document.Yaml

/-- A place where a key may have begun. -/
structure KeyStart where
  /-- The number of tokens before it. -/
  position : Nat
  /-- Whether nothing but a key can stand there. -/
  required : Bool
  line : Nat
  column : Nat
  index : Nat

/-- How far the reading of tokens has come. -/
structure Progress where
  cursor : Cursor
  /-- The tokens read, the last one first. -/
  tokens : List Token
  /-- The indentation of the innermost block collection; `-1` outside of all. -/
  indent : Int
  /-- The indentations of those around it. -/
  outer : List Int
  /-- Where a key may have begun, for what is around the cursor and not in brackets. -/
  key : Option KeyStart
  /-- The same for each pair of brackets around the cursor, from the innermost out. -/
  outerKeys : List (Option KeyStart)
  /-- Whether a key may begin at the cursor. -/
  keyAllowed : Bool

namespace Progress

/-- The beginning of a text. -/
def start (text : List Char) : Progress :=
  { cursor := .start text, tokens := [], indent := -1, outer := [], key := none, outerKeys := []
    keyAllowed := true }

/-- Whether the cursor is within brackets. -/
def inFlow (p : Progress) : Bool := !p.outerKeys.isEmpty

/-- Adds a token. -/
def push (p : Progress) (t : Token) : Progress := { p with tokens := t :: p.tokens }

/-- Puts in a token after the first `position` ones. -/
def insert (p : Progress) (position : Nat) (t : Token) : Progress :=
  { p with tokens := p.tokens.insertIdx (p.tokens.length - position) t }

/-- Adds a token that is `count` characters long. -/
def take (p : Progress) (t : Token) (count : Nat) : Progress :=
  { p with cursor := p.cursor.advance count }.push t

/-! ### Keys -/

/-- Gives up the place where a key may have begun. None if nothing else could stand there. -/
def dropKey? (p : Progress) : Option Progress :=
  match p.key with
  | some k => if k.required then none else some { p with key := none }
  | none => some p

/-- Whether a key that began at a place can still end at the cursor. -/
def inReach (p : Progress) (k : KeyStart) : Bool :=
  k.line == p.cursor.line && p.cursor.index ≤ k.index + 1024

/-- Keeps the cursor as a place where a key may have begun, if one may. -/
def keepKey? (p : Progress) : Option Progress :=
  if p.keyAllowed then do
    let q ← p.dropKey?
    let c := p.cursor
    let required := !p.inFlow && p.indent == c.column
    return { q with key := some ⟨p.tokens.length, required, c.line, c.column, c.index⟩ }
  else some p

/-! ### Indentation -/

/-- Begins a block collection at a column, unless one of that indentation is open. The token for it
goes after the first `position` ones. -/
def openBlock (p : Progress) (column position : Nat) (t : Token) : Progress :=
  if p.inFlow ∨ column ≤ p.indent then p
  else { p.insert position t with outer := p.indent :: p.outer, indent := column }

/-- Ends collections until the innermost one is indented no further than a column. -/
def closeBlocks (column : Int) : List Int → Progress → Progress
  | [], p => p
  | around :: rest, p =>
    if p.indent ≤ column then p
    else closeBlocks column rest { p.push .blockEnd with indent := around, outer := rest }

/-- Ends the block collections that are indented further than a column. -/
def closeTo (p : Progress) (column : Int) : Progress :=
  if p.inFlow then p else closeBlocks column p.outer p

/-! ### Tokens, one by one -/

/-- Whether a blank in front may be skipped between tokens. A tab may not where a key may begin. -/
def skipsBlank (p : Progress) (c : Char) : Bool :=
  c == ' ' || (c == '\t' && (p.inFlow || !p.keyAllowed))

/-- Skips blanks, comments and line ends up to the next token. -/
def toNextToken : Nat → Progress → Progress
  | 0, p => p
  | fuel + 1, p =>
    let c := (p.cursor.skip p.skipsBlank).skipComment
    match c.lineEnd? with
    | some (_, next) =>
      toNextToken fuel { p with cursor := next, keyAllowed := p.keyAllowed || !p.inFlow }
    | none => { p with cursor := c }

/-- Skips the byte order mark that a text may begin with. -/
def skipOrderMark (p : Progress) : Progress :=
  if p.cursor.index = 0 ∧ p.cursor.rest.head? = some '\ufeff' then
    { p with cursor := p.cursor.advance 1 }
  else p

/-- Ends everything that is open where a document begins or ends. -/
def endAll? (p : Progress) : Option Progress := do
  let p ← (p.closeTo (-1)).dropKey?
  return { p with keyAllowed := false }

def takeDirective? (p : Progress) : Option Progress := do
  let p ← p.endAll?
  let (t, c) ← Properties.readDirective? p.cursor
  return { p with cursor := c }.push t

def takeDocumentMark? (p : Progress) (t : Token) : Option Progress := do
  return (← p.endAll?).take t 3

def takeOpening? (p : Progress) (t : Token) : Option Progress := do
  let p ← p.keepKey?
  return { p with key := none, outerKeys := p.key :: p.outerKeys, keyAllowed := true }.take t 1

def takeClosing? (p : Progress) (t : Token) : Option Progress := do
  let p ← p.dropKey?
  let p := match p.outerKeys with
    | k :: rest => { p with key := k, outerKeys := rest }
    | [] => p
  return { p with keyAllowed := false }.take t 1

def takeComma? (p : Progress) : Option Progress := do
  let p ← p.dropKey?
  return { p with keyAllowed := true }.take .flowEntry 1

/-- Begins a block collection at the cursor, unless one of that indentation is open. None where
none may begin. -/
def openHere? (p : Progress) (t : Token) : Option Progress :=
  if p.inFlow then some p
  else if p.keyAllowed then some (p.openBlock p.cursor.column p.tokens.length t)
  else none

def takeHyphen? (p : Progress) : Option Progress := do
  let p ← (← p.openHere? .blockSequenceStart).dropKey?
  return { p with keyAllowed := true }.take .blockEntry 1

def takeQuestion? (p : Progress) : Option Progress := do
  let p ← (← p.openHere? .blockMappingStart).dropKey?
  return { p with keyAllowed := !p.inFlow }.take .key 1

/-- A colon makes a key of what may have been one. Where nothing may, it begins the value of a key
that was marked as one. -/
def takeColon? (p : Progress) : Option Progress :=
  match p.key with
  | some k =>
    if p.inReach k then
      let q := (p.insert k.position .key).openBlock k.column k.position .blockMappingStart
      some ({ q with key := none, keyAllowed := false }.take .value 1)
    else if k.required then none
    else afterMarkedKey? { p with key := none }
  | none => afterMarkedKey? p
where
  afterMarkedKey? (p : Progress) : Option Progress := do
    let p ← p.openHere? .blockMappingStart
    return { p with keyAllowed := !p.inFlow }.take .value 1

def takeAnchor? (p : Progress) (t : String → Token) : Option Progress := do
  let p ← p.keepKey?
  let (name, c) ← Properties.readAnchor? p.cursor
  return { p with cursor := c, keyAllowed := false }.push (t name)

def takeTag? (p : Progress) : Option Progress := do
  let p ← p.keepKey?
  let (t, c) ← Properties.readTag? p.inFlow p.cursor
  return { p with cursor := c, keyAllowed := false }.push t

def takeBlockScalar? (p : Progress) (folded : Bool) : Option Progress := do
  let p ← p.dropKey?
  let (text, c) ← Block.read folded p.indent p.cursor
  return { p with cursor := c, keyAllowed := true }.push (.scalar text false)

def takeQuoted? (p : Progress) (quote : Quoted.Quote) : Option Progress := do
  let p ← p.keepKey?
  let (text, c) ← Quoted.read quote p.cursor
  return { p with cursor := c, keyAllowed := false }.push (.scalar text false)

def takePlain? (p : Progress) : Option Progress := do
  let p ← p.keepKey?
  let (text, c, broken) ← Plain.read p.inFlow (p.indent + 1).toNat p.cursor
  return { p with cursor := c, keyAllowed := broken }.push (.scalar text true)

/-- Whether a plain scalar can begin with a character that `rest` follows. -/
def beginsPlain (inFlow : Bool) (c : Char) (rest : List Char) : Bool :=
  if c == '-' then !(rest.head?.any isBlank)
  else if c == '?' || c == ':' then !inFlow && !endsWord rest
  else !(isBlank c || isBreak c || ",[]#&*!|>'\"%@\x60\x7b\x7d".toList.contains c)

/-- Reads the token at the cursor, of which the first character is `c`. -/
def takeToken? (p : Progress) (c : Char) (rest : List Char) : Option Progress :=
  if p.cursor.column = 0 ∧ c = '%' then p.takeDirective?
  else if p.cursor.atDocumentMark then
    p.takeDocumentMark? (if c = '-' then .documentStart else .documentEnd)
  else if c = '[' then p.takeOpening? .flowSequenceStart
  else if c = '\x7b' then p.takeOpening? .flowMappingStart
  else if c = ']' then p.takeClosing? .flowSequenceEnd
  else if c = '\x7d' then p.takeClosing? .flowMappingEnd
  else if c = ',' then p.takeComma?
  else if c = '-' ∧ endsWord rest then p.takeHyphen?
  else if c = '?' ∧ (p.inFlow ∨ endsWord rest) then p.takeQuestion?
  else if c = ':' ∧ (p.inFlow ∨ endsWord rest) then p.takeColon?
  else if c = '*' then p.takeAnchor? .alias
  else if c = '&' then p.takeAnchor? .anchor
  else if c = '!' then p.takeTag?
  else if c = '|' ∧ !p.inFlow then p.takeBlockScalar? false
  else if c = '>' ∧ !p.inFlow then p.takeBlockScalar? true
  else if c = '\'' then p.takeQuoted? .single
  else if c = '"' then p.takeQuoted? .double
  else if beginsPlain p.inFlow c rest then p.takePlain?
  else none

/-- Reads the tokens from here to the end of the text. Every token but those put in takes at least
one character, so `fuel` need not be more than their number and one. -/
def readAll? : Nat → Progress → Option (List Token)
  | 0, _ => none
  | fuel + 1, p => do
    let p := toNextToken (p.cursor.rest.length + 1) p.skipOrderMark
    let p := p.closeTo p.cursor.column
    match p.cursor.rest with
    | [] => return (← p.endAll?).tokens.reverse
    | c :: rest => readAll? fuel (← p.takeToken? c rest)

end Progress

/-- The tokens that a text spells. None if a character in it may not stand in a document, or if
somewhere no token can begin. -/
def Token.ofText? (source : String) : Option (List Token) :=
  let text := source.toList
  if text.all isAllowed then (Progress.start text).readAll? (text.length + 1) else none

end CrossBrowser.Document.Yaml
