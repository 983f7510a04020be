import CrossBrowser.Document.Yaml.Cursor
import CrossBrowser.Document.Yaml.Token
import CrossBrowser.Text.Hex

/-! Anchors, aliases, tags and directives. -/
namespace CrossBrowser.Document.Yaml.Properties

/-! ### Anchors and aliases -/

/-- Whether an anchor may end before this text. -/
def endsAnchor : List Char → Bool
  | [] => true
  | c :: _ => isBlank c || isBreak c || "?:,]%@\x60\x7d".toList.contains c

/-- Reads the name of an anchor or alias, of which the indicator is in front. -/
def readAnchor? (c : Cursor) : Option (String × Cursor) :=
  let (name, c) := (c.advance 1).span isWordChar
  if name = [] ∨ !endsAnchor c.rest then none else some (String.ofList name, c)

/-! ### Tags -/

/-- Whether a character may stand in a tag. Brackets and commas may only in a tag that is written
out between angle brackets. -/
def isTagChar (writtenOut : Bool) (c : Char) : Bool :=
  isWordChar c || ";/?:@&=+$.%!~*'()".toList.contains c ||
    (writtenOut && (c == ',' || c == '[' || c == ']'))

/-- The byte that a percent sign and two digits in front spell. -/
def escapedByte? : List Char → Option Nat
  | '%' :: a :: b :: _ => Text.hexNumber? [a, b]
  | _ => none

/-- The number of bytes of a character that begins with this byte. -/
def characterLength? (byte : Nat) : Option Nat :=
  if byte < 0x80 then some 1
  else if byte < 0xC0 then none
  else if byte < 0xE0 then some 2
  else if byte < 0xF0 then some 3
  else if byte < 0xF8 then some 4
  else none

/-- The bytes that continue a character, as a number with six bits for each. -/
def continuationBits? : Nat → Nat → List Char → Option Nat
  | 0, n, _ => some n
  | count + 1, n, cs => do
    let byte ← escapedByte? cs
    if byte < 0x80 ∨ 0xC0 ≤ byte then failure
    continuationBits? count (n * 64 + (byte - 0x80)) (cs.drop 3)

/-- The character that escaped bytes in front spell, and their number. -/
def escapedChar? (cs : List Char) : Option (Char × Nat) := do
  let byte ← escapedByte? cs
  let length ← characterLength? byte
  let high := if length = 1 then byte else byte % Nat.pow 2 (7 - length)
  let n ← continuationBits? (length - 1) high (cs.drop 3)
  return (Char.ofNat n, length)

/-- Reads the characters of a tag. None if an escape in it is not well formed. -/
def readTagChars? (writtenOut : Bool) :
    Nat → List Char → Cursor → Option (List Char × Cursor)
  | 0, text, c => some (text, c)
  | fuel + 1, text, c =>
    match c.rest with
    | [] => some (text, c)
    | b :: _ =>
      if !isTagChar writtenOut b then some (text, c)
      else if b = '%' then do
        let (d, length) ← escapedChar? c.rest
        readTagChars? writtenOut fuel (text ++ [d]) (c.advance (3 * length))
      else readTagChars? writtenOut fuel (text ++ [b]) (c.advance 1)

/-- Reads what is in front of a tag as a handle: an exclamation mark, a word, and perhaps another
exclamation mark. -/
def readHandle? (c : Cursor) : Option (List Char × Cursor) :=
  match c.rest with
  | '!' :: _ =>
    let (word, c) := (c.advance 1).span isWordChar
    match c.rest with
    | '!' :: _ => some ('!' :: word ++ ['!'], c.advance 1)
    | _ => some ('!' :: word, c)
  | _ => none

/-- Whether a handle ends in an exclamation mark of its own. -/
def isFullHandle (handle : List Char) : Bool :=
  2 ≤ handle.length && handle.getLast? == some '!'

/-- Reads the characters of a tag, of which there must be some. -/
def readSuffix? (writtenOut : Bool) (c : Cursor) : Option (List Char × Cursor) := do
  let (text, c) ← readTagChars? writtenOut (c.rest.length + 1) [] c
  if text = [] then failure else return (text, c)

/-- Reads a tag between angle brackets. -/
def readWrittenOut? (c : Cursor) : Option (Token × Cursor) := do
  let (text, c) ← readSuffix? true (c.advance 2)
  match c.rest with
  | '>' :: _ => return (.tag "" (String.ofList text), c.advance 1)
  | _ => failure

/-- Reads a tag with a handle. Without a full one, the handle is a single exclamation mark and what
follows it belongs to the tag; a lone exclamation mark is a tag of its own. -/
def readShort? (c : Cursor) : Option (Token × Cursor) := do
  let (handle, c) ← readHandle? c
  if isFullHandle handle then
    let (text, c) ← readSuffix? false c
    return (.tag (String.ofList handle) (String.ofList text), c)
  else
    let (text, c) ← readTagChars? false (c.rest.length + 1) (handle.drop 1) c
    return (if text = [] then .tag "" "!" else .tag "!" (String.ofList text), c)

/-- Reads a tag. It must end a word, or come before a comma within brackets. -/
def readTag? (inFlow : Bool) (c : Cursor) : Option (Token × Cursor) := do
  let (tag, c) ← match c.rest with
    | '!' :: '<' :: _ => readWrittenOut? c
    | _ => readShort? c
  if endsWord c.rest || (inFlow && c.rest.head? == some ',') then return (tag, c) else failure

/-! ### Directives -/

/-- Reads a number of up to nine digits. -/
def readNumber? (c : Cursor) : Option (Nat × Cursor) :=
  let (digits, c) := c.span Char.isDigit
  if digits = [] ∨ 9 < digits.length then none
  else some (digits.foldl (fun n d => n * 10 + (d.toNat - '0'.toNat)) 0, c)

/-- Reads the version that a document asks for. -/
def readVersion? (c : Cursor) : Option (Token × Cursor) := do
  let (major, c) ← readNumber? (c.skip isBlank)
  match c.rest with
  | '.' :: _ =>
    let (minor, c) ← readNumber? (c.advance 1)
    return (.version major minor, c)
  | _ => failure

/-- Reads a handle and what it abbreviates. -/
def readAbbreviation? (c : Cursor) : Option (Token × Cursor) := do
  let (handle, c) ← readHandle? (c.skip isBlank)
  if handle ≠ ['!'] ∧ !isFullHandle handle then failure
  if !startsBlank c.rest then failure
  let (text, c) ← readSuffix? true (c.skip isBlank)
  if endsWord c.rest then return (.handle (String.ofList handle) (String.ofList text), c)
  else failure
where
  startsBlank : List Char → Bool
    | b :: _ => isBlank b
    | [] => false

/-- Reads a directive, of which the percent sign is in front, and the rest of its line. -/
def readDirective? (c : Cursor) : Option (Token × Cursor) := do
  let (name, c) := (c.advance 1).span isWordChar
  if !endsWord c.rest then failure
  let (token, c) ←
    if name = "YAML".toList then readVersion? c
    else if name = "TAG".toList then readAbbreviation? c
    else failure
  return (token, ← c.finishLine?)

end CrossBrowser.Document.Yaml.Properties
