/-! Places in the text of a YAML document.

A cursor is the text that is still to be read, together with the line, the column and the position
it begins at. The kinds of characters that YAML distinguishes are here as well. -/
namespace CrossBrowser.Document.Yaml

/-! ### Characters -/

/-- Whether a character may stand in a document at all. -/
def isAllowed (c : Char) : Bool :=
  let n := c.toNat
  n == 0x09 || n == 0x0A || n == 0x0D || (0x20 ≤ n && n ≤ 0x7E) || n == 0x85 ||
    (0xA0 ≤ n && n ≤ 0xFFFD) || 0x10000 ≤ n

/-- A space or a tab. -/
def isBlank (c : Char) : Bool := c == ' ' || c == '\t'

/-- A character that ends a line. -/
def isBreak (c : Char) : Bool :=
  c == '\r' || c == '\n' || c == '\u0085' || c == '\u2028' || c == '\u2029'

/-- A letter, digit, hyphen or underscore, of those in ASCII: what anchors and handles are made
of. -/
def isWordChar (c : Char) : Bool := c.isAlphanum || c == '-' || c == '_'

/-- Whether a text ends here, or goes on with a blank or a new line. -/
def endsWord : List Char → Bool
  | [] => true
  | c :: _ => isBlank c || isBreak c

/-- Whether a text is at the end of a line. -/
def endsLine : List Char → Bool
  | [] => true
  | c :: _ => isBreak c

/-- Whether a line that starts so begins or ends a document. -/
def isDocumentMark : List Char → Bool
  | '-' :: '-' :: '-' :: rest => endsWord rest
  | '.' :: '.' :: '.' :: rest => endsWord rest
  | _ => false

/-! ### Cursors -/

/-- The text still to be read, and where it begins. -/
structure Cursor where
  rest : List Char
  line : Nat
  column : Nat
  index : Nat

namespace Cursor

/-- The start of a text. -/
def start (text : List Char) : Cursor := ⟨text, 0, 0, 0⟩

/-- The cursor after so many more characters of the same line. -/
def advance (c : Cursor) (count : Nat) : Cursor :=
  { c with rest := c.rest.drop count, column := c.column + count, index := c.index + count }

/-- The longest run of characters in front that satisfy `p`, none of which may end a line, and the
cursor after it. -/
def span (c : Cursor) (p : Char → Bool) : List Char × Cursor :=
  let run := c.rest.takeWhile p
  (run, c.advance run.length)

/-- The cursor after the longest run of characters in front that satisfy `p`. -/
def skip (c : Cursor) (p : Char → Bool) : Cursor := (c.span p).2

/-- The cursor after a line end of so many characters. -/
def toNextLine (c : Cursor) (count : Nat) : Cursor :=
  ⟨c.rest.drop count, c.line + 1, 0, c.index + count⟩

/-- The line end in front, as it counts in a text, and the cursor after it. All line ends count as
line feeds, but for the separators of lines and paragraphs. None if no line end is in front. -/
def lineEnd? (c : Cursor) : Option (Char × Cursor) :=
  match c.rest with
  | '\r' :: '\n' :: _ => some ('\n', c.toNextLine 2)
  | b :: _ =>
    if b = '\u2028' ∨ b = '\u2029' then some (b, c.toNextLine 1)
    else if isBreak b then some ('\n', c.toNextLine 1)
    else none
  | [] => none

/-- The cursor after the line end in front, if there is one. -/
def skipLineEnd (c : Cursor) : Cursor :=
  match c.lineEnd? with
  | some (_, next) => next
  | none => c

/-- Whether the cursor is at the beginning of a line that begins or ends a document. -/
def atDocumentMark (c : Cursor) : Bool := c.column == 0 && isDocumentMark c.rest

/-- The cursor at the end of the comment in front, if there is one. -/
def skipComment (c : Cursor) : Cursor :=
  match c.rest with
  | '#' :: _ => c.skip (!isBreak ·)
  | _ => c

/-- The cursor on the next line, if nothing but blanks and a comment is left of this one. -/
def finishLine? (c : Cursor) : Option Cursor :=
  let c := (c.skip isBlank).skipComment
  if endsLine c.rest then some c.skipLineEnd else none

end Cursor
end CrossBrowser.Document.Yaml
