import CrossBrowser.Document.Yaml.Folding
import CrossBrowser.Text.Hex

/-! Quoted scalars.

Between single quotes only the quote itself is special, and is written twice. Between double quotes
a backslash begins an escape. -/
namespace CrossBrowser.Document.Yaml.Quoted

/-- The kinds of quotes. -/
inductive Quote where
  | single
  | double
  deriving DecidableEq

/-- The character a quote is written as. -/
def Quote.char : Quote → Char
  | .single => '\''
  | .double => '"'

/-- The character that a short escape stands for. -/
def shortEscape? : Char → Option Char
  | '0' => some '\x00'
  | 'a' => some '\x07'
  | 'b' => some '\x08'
  | 't' | '\t' => some '\t'
  | 'n' => some '\n'
  | 'v' => some '\x0b'
  | 'f' => some '\x0c'
  | 'r' => some '\r'
  | 'e' => some '\x1b'
  | ' ' => some ' '
  | '"' => some '"'
  | '/' => some '/'
  | '\\' => some '\\'
  | 'N' => some '\u0085'
  | '_' => some '\u00a0'
  | 'L' => some '\u2028'
  | 'P' => some '\u2029'
  | _ => none

/-- The number of digits of a numeric escape. -/
def digitCount? : Char → Option Nat
  | 'x' => some 2
  | 'u' => some 4
  | 'U' => some 8
  | _ => none

/-- The character whose number is spelled by `count` digits in front. -/
def numericEscape? (count : Nat) (cs : List Char) : Option Char := do
  if cs.length < count then failure
  let n ← Text.hexNumber? (cs.take count)
  if n.isValidChar then return Char.ofNat n else failure

/-- The character that the escape after a backslash stands for, and the number of characters of the
escape. -/
def escape? : List Char → Option (Char × Nat)
  | [] => none
  | c :: rest =>
    match digitCount? c with
    | some count => (numericEscape? count rest).map (·, count + 1)
    | none => (shortEscape? c).map (·, 1)

/-- How a word of a quoted scalar ends. -/
inductive WordEnd where
  /-- At the closing quote, or at a blank, or at the end of a line or of everything. -/
  | outside
  /-- At a line end that is escaped. -/
  | escapedBreak

/-- Reads the characters of a word. None if there is an escape that stands for nothing. -/
def word? (quote : Quote) : Nat → List Char → Cursor → Option (List Char × Cursor × WordEnd)
  | 0, word, c => some (word, c, .outside)
  | fuel + 1, word, c =>
    match c.rest with
    | [] => some (word, c, .outside)
    | b :: rest =>
      if isBlank b || isBreak b then some (word, c, .outside)
      else if b = quote.char then
        if quote = .single ∧ rest.head? = some '\'' then
          word? quote fuel (word ++ ['\'']) (c.advance 2)
        else some (word, c, .outside)
      else if quote = .double ∧ b = '\\' then
        if !rest.isEmpty && endsLine rest then
          some (word, (c.advance 1).skipLineEnd, .escapedBreak)
        else do
          let (d, length) ← escape? rest
          word? quote fuel (word ++ [d]) (c.advance (length + 1))
      else word? quote fuel (word ++ [b]) (c.advance 1)

/-- Reads on a quoted scalar up to its closing quote. A line in it must not begin or end a
document. -/
def readOn (quote : Quote) : Nat → List Char → Cursor → Option (List Char × Cursor)
  | 0, _, _ => none
  | fuel + 1, text, c => do
    if c.atDocumentMark || c.rest.isEmpty then failure
    let (word, c, ending) ← word? quote (c.rest.length + 1) [] c
    if c.rest.head? = some quote.char then return (text ++ word, c.advance 1)
    let gap := match ending with
      | .outside => Gap.empty
      | .escapedBreak => Gap.escaped
    let (gap, c) ← c.gap? (fun _ _ => true) c.rest.length gap
    readOn quote fuel (text ++ word ++ gap.folded) c

/-- Reads a quoted scalar, of which the opening quote is in front. -/
def read (quote : Quote) (c : Cursor) : Option (String × Cursor) := do
  let (text, c) ← readOn quote (c.rest.length + 1) [] (c.advance 1)
  return (String.ofList text, c)

end CrossBrowser.Document.Yaml.Quoted
