import CrossBrowser.Document.Yaml.Cursor

/-! Block scalars: those introduced by a bar or an arrow.

The lines of a block scalar are indented alike. After a bar they are kept as they are; after an
arrow, lines that begin with no blank are joined by spaces. The header may fix the indentation, and
says what becomes of the line ends after the last line. -/
namespace CrossBrowser.Document.Yaml.Block

/-- What becomes of the line ends after the last line. -/
inductive Chomping where
  /-- All are dropped. -/
  | strip
  /-- One is kept. -/
  | clip
  /-- All are kept. -/
  | keep
  deriving DecidableEq

/-- What the header of a block scalar says. -/
structure Header where
  chomping : Chomping
  /-- How much further the lines are indented than what is around them; zero if the first line
  shows it. -/
  indentation : Nat

/-- Reads the chomping in front. -/
def readChomping (c : Cursor) : Chomping × Cursor :=
  match c.rest with
  | '+' :: _ => (.keep, c.advance 1)
  | '-' :: _ => (.strip, c.advance 1)
  | _ => (.clip, c)

/-- Reads the indentation in front, a digit other than zero. -/
def readIndentation? (c : Cursor) : Option (Nat × Cursor) :=
  match c.rest with
  | d :: _ =>
    if d = '0' then none
    else if d.isDigit then some (d.toNat - '0'.toNat, c.advance 1)
    else some (0, c)
  | [] => some (0, c)

/-- Reads the header after the bar or arrow, up to the next line. The chomping and the indentation
come in either order. -/
def readHeader? (c : Cursor) : Option (Header × Cursor) := do
  let (chomping, c) := readChomping c
  let (indentation, c) ← readIndentation? c
  let (chomping, c) :=
    if chomping = .clip ∧ indentation ≠ 0 then readChomping c else (chomping, c)
  let c ← c.finishLine?
  return (⟨chomping, indentation⟩, c)

/-- The cursor after the spaces in front, up to the column `indent`; up to any column if that is
zero. -/
def skipIndentation (indent : Nat) (c : Cursor) : Cursor :=
  let spaces := (c.rest.takeWhile (· == ' ')).length
  c.advance (if indent = 0 then spaces else min spaces (indent - c.column))

/-- Reads indentation and empty lines up to a line that has more. Gives the line ends, the cursor
and the widest indentation seen. None if a tab stands in the indentation. -/
def emptyLines? (indent : Nat) : Nat → List Char → Nat → Cursor → Option (List Char × Nat × Cursor)
  | 0, breaks, widest, c => some (breaks, widest, c)
  | fuel + 1, breaks, widest, c =>
    let c := skipIndentation indent c
    let widest := max widest c.column
    if (indent == 0 || c.column < indent) && c.rest.head? == some '\t' then none
    else
      match c.lineEnd? with
      | some (b, next) => emptyLines? indent fuel (breaks ++ [b]) widest next
      | none => some (breaks, widest, c)

/-- What has been read of a block scalar. -/
structure Progress where
  text : List Char
  /-- The end of the last line, if it has one. -/
  lastEnd : List Char
  /-- The ends of the empty lines after it. -/
  further : List Char
  /-- Whether the last line began with a blank. -/
  blankLine : Bool

/-- The text before another line, which begins with a blank or not. -/
def Progress.joined (p : Progress) (folded blankLine : Bool) : List Char :=
  if folded && p.lastEnd == ['\n'] && !p.blankLine && !blankLine then
    p.text ++ (if p.further = [] then [' '] else []) ++ p.further
  else p.text ++ p.lastEnd ++ p.further

/-- Whether a text begins with a blank. -/
def startsBlank : List Char → Bool
  | c :: _ => isBlank c
  | [] => false

/-- Reads the lines that begin at the column `indent`. -/
def readLines? (folded : Bool) (indent : Nat) : Nat → Progress → Cursor → Option (Progress × Cursor)
  | 0, p, c => some (p, c)
  | fuel + 1, p, c =>
    if c.column ≠ indent ∨ c.rest = [] then some (p, c)
    else do
      let blankLine := startsBlank c.rest
      let (line, c) := c.span (!isBreak ·)
      let text := p.joined folded blankLine ++ line
      let (lastEnd, c) := match c.lineEnd? with
        | some (b, next) => ([b], next)
        | none => ([], c)
      let (further, _, c) ← emptyLines? indent (c.rest.length + 1) [] 0 c
      readLines? folded indent fuel ⟨text, lastEnd, further, blankLine⟩ c

/-- Reads a block scalar, of which the bar or arrow is in front, within a collection indented by
`outer`, which is `-1` outside of all collections. -/
def read (folded : Bool) (outer : Int) (c : Cursor) : Option (String × Cursor) := do
  let (header, c) ← readHeader? (c.advance 1)
  let given := if header.indentation = 0 then 0 else (max outer 0).toNat + header.indentation
  let (breaks, widest, c) ← emptyLines? given (c.rest.length + 1) [] 0 c
  let indent := if given = 0 then max (max widest (outer + 1).toNat) 1 else given
  let (p, c) ← readLines? folded indent (c.rest.length + 1) ⟨[], [], breaks, false⟩ c
  let text := match header.chomping with
    | .strip => p.text
    | .clip => p.text ++ p.lastEnd
    | .keep => p.text ++ p.lastEnd ++ p.further
  return (String.ofList text, c)

end CrossBrowser.Document.Yaml.Block
