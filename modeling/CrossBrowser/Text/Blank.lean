/-! Blank characters, and texts without the blanks at their ends.

A character is blank when it has the White_Space property, so the ends of a text may be cut off at
spaces that are not in the basic range. What is between the first and the last character that is not
blank stays as it is. -/
namespace CrossBrowser.Text

/-- Whether a character has the White_Space property. The zero-width spaces do not. -/
def isBlank (c : Char) : Bool :=
  let n := c.toNat
  (9 ≤ n && n ≤ 13) || n == 0x20 || n == 0x85 || n == 0xA0 || n == 0x1680 ||
    (0x2000 ≤ n && n ≤ 0x200A) || n == 0x2028 || n == 0x2029 || n == 0x202F ||
    n == 0x205F || n == 0x3000

/-- A list without the elements at either end that satisfy `p`. -/
def dropEndsWhile {α : Type} (p : α → Bool) (xs : List α) : List α :=
  ((xs.dropWhile p).reverse.dropWhile p).reverse

/-- A text without the blanks at its ends. -/
def trim (s : String) : String := String.ofList (dropEndsWhile isBlank s.toList)

/-- A text without the characters at its end that satisfy `p`. -/
def trimEnd (p : Char → Bool) (s : String) : String :=
  String.ofList (s.toList.reverse.dropWhile p).reverse

/-- Whether a text holds nothing but blanks; an empty text does. -/
def isBlankText (s : String) : Bool := s.toList.all isBlank

end CrossBrowser.Text
