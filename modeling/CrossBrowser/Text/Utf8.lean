/-! Texts from bytes.

Bytes that are no text have a first fault: the longest run of bytes that begins a character and
cannot be continued, or a character that the end of the bytes cuts off. -/
namespace CrossBrowser.Text

/-- Why bytes are no text in UTF-8. -/
inductive Utf8Fault where
  /-- At `offset`, `length` bytes begin a character that the next byte does not continue. -/
  | invalid (offset length : Nat)
  /-- At `offset` a character begins that the end of the bytes cuts off. -/
  | incomplete (offset : Nat)
  deriving DecidableEq

/-- The fault in words. -/
def Utf8Fault.message : Utf8Fault → String
  | .invalid offset length => s!"invalid utf-8 sequence of {length} bytes from index {offset}"
  | .incomplete offset => s!"incomplete utf-8 byte sequence from index {offset}"

/-- A closed range of bytes. -/
abbrev ByteRange := UInt8 × UInt8

/-- The ranges that the bytes after the first byte of a character must lie in; none if no
character begins with that byte. -/
def continuation? (first : UInt8) : Option (List ByteRange) :=
  if first ≤ 0x7F then some []
  else if 0xC2 ≤ first ∧ first ≤ 0xDF then some [(0x80, 0xBF)]
  else if first = 0xE0 then some [(0xA0, 0xBF), (0x80, 0xBF)]
  else if first = 0xED then some [(0x80, 0x9F), (0x80, 0xBF)]
  else if 0xE1 ≤ first ∧ first ≤ 0xEF then some [(0x80, 0xBF), (0x80, 0xBF)]
  else if first = 0xF0 then some [(0x90, 0xBF), (0x80, 0xBF), (0x80, 0xBF)]
  else if 0xF1 ≤ first ∧ first ≤ 0xF3 then some [(0x80, 0xBF), (0x80, 0xBF), (0x80, 0xBF)]
  else if first = 0xF4 then some [(0x80, 0x8F), (0x80, 0xBF), (0x80, 0xBF)]
  else none

/-- The first fault of bytes, of which `offset` came before. `start` is where the current character
began, and `expected` is what the bytes that it still needs must lie in. -/
def faultFrom (offset start : Nat) (expected : List ByteRange) : List UInt8 → Option Utf8Fault
  | [] => if expected = [] then none else some (.incomplete start)
  | byte :: rest =>
    match expected with
    | [] =>
      match continuation? byte with
      | none => some (.invalid offset 1)
      | some ranges => faultFrom (offset + 1) offset ranges rest
    | (low, high) :: more =>
      if low ≤ byte ∧ byte ≤ high then faultFrom (offset + 1) start more rest
      else some (.invalid start (offset - start))

/-- The first fault of bytes that are no text. -/
def utf8Fault (bytes : ByteArray) : Utf8Fault :=
  (faultFrom 0 0 [] bytes.data.toList).getD (.incomplete 0)

/-- The text that bytes encode. -/
def decodeUtf8 (bytes : ByteArray) : Except Utf8Fault String :=
  match String.fromUTF8? bytes with
  | some text => .ok text
  | none => .error (utf8Fault bytes)

/-- The bytes that encode a text. -/
def encodeUtf8 (text : String) : ByteArray := text.toUTF8

end CrossBrowser.Text
