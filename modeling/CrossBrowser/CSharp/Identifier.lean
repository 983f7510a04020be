import CrossBrowser.Text.Letter
import CrossBrowser.Text.Mark
import CrossBrowser.Text.Numeral

/-! Identifiers of C#.

An identifier begins with a letter or an underscore, where letters that stand for numbers count as
letters. It goes on with letters, decimal digits, combining marks, and connecting and formatting
characters. An `@` that escapes a reserved word stands in front of the identifier and is no part of
it. -/
namespace CrossBrowser.CSharp
open Text

/-- The ranges of general category Pc: connecting characters, such as the underscore. -/
def connectorRanges : List (Nat × Nat) :=
  [(0x5F, 0x5F), (0x203F, 0x2040), (0x2054, 0x2054), (0xFE33, 0xFE34), (0xFE4D, 0xFE4F),
   (0xFF3F, 0xFF3F)]

/-- The ranges of general category Cf: formatting characters. -/
def formatRanges : List (Nat × Nat) :=
  [(0xAD, 0xAD), (0x600, 0x605), (0x61C, 0x61C), (0x6DD, 0x6DD), (0x70F, 0x70F), (0x890, 0x891),
   (0x8E2, 0x8E2), (0x180E, 0x180E), (0x200B, 0x200F), (0x202A, 0x202E), (0x2060, 0x2064),
   (0x2066, 0x206F), (0xFEFF, 0xFEFF), (0xFFF9, 0xFFFB), (0x110BD, 0x110BD), (0x110CD, 0x110CD),
   (0x13430, 0x1343F), (0x1BCA0, 0x1BCA3), (0x1D173, 0x1D17A), (0xE0001, 0xE0001),
   (0xE0020, 0xE007F)]

/-- Whether an identifier can begin with a character. -/
def startsIdentifier (c : Char) : Bool := c == '_' || isLetter c || isLetterNumber c

/-- Whether an identifier can go on with a character. -/
def continuesIdentifier (c : Char) : Bool :=
  isLetter c || isLetterNumber c || isDecimalDigit c || isMark c ||
    covers connectorRanges c.toNat || covers formatRanges c.toNat

/-- Whether characters are those of an identifier. -/
def isIdentifierList : List Char → Bool
  | [] => false
  | c :: rest => startsIdentifier c && rest.all continuesIdentifier

/-- Whether a name is an identifier, the `@` that escapes it aside. -/
def isIdentifier (name : String) : Bool := isIdentifierList name.toList

end CrossBrowser.CSharp
