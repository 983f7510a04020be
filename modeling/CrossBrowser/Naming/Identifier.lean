import CrossBrowser.Naming.Keyword
import CrossBrowser.Text.Letter
import CrossBrowser.Text.LetterCase
import CrossBrowser.Text.Numeral

/-! Identifiers made from free text.

The words of a text are its longest runs of letters and numerals. An identifier is the words run
together, each capitalised, with an underscore in front where the result would be empty or begin
with a numeral. -/
namespace CrossBrowser.Naming
open Text

/-- Whether a character belongs to a word. -/
def inWord (c : Char) : Bool := isLetter c || isNumeral c

/-- The words of a text, in order. -/
def words (cs : List Char) : List (List Char) := (cs.splitOnP (!inWord ·)).filter (· ≠ [])

/-- A word with its first character in upper case. -/
def capitalize : List Char → List Char
  | [] => []
  | c :: rest => upper c ++ rest

/-- A word with its first character in lower case. -/
def uncapitalize : List Char → List Char
  | [] => []
  | c :: rest => lower c ++ rest

/-- The words of a text run together, each capitalised. -/
def joinedWords (text : String) : List Char := (words text.toList).flatMap capitalize

/-- A name that does not begin with a numeral and is not empty: an underscore goes in front where
one of these would be. -/
def guardStart : List Char → List Char
  | [] => ['_']
  | c :: rest => if isNumeral c then '_' :: c :: rest else c :: rest

/-- The identifier of a text in which every word begins with a capital. -/
def pascal (text : String) : String := String.ofList (guardStart (joinedWords text))

/-- The identifier of the method that tests a scenario with this title. -/
def methodName (title : String) : String := pascal title

/-- What the name of a test class ends in. -/
def classSuffix : String := "Feature"

/-- The identifier of the class that tests a feature with this title. -/
def className (title : String) : String := pascal title ++ classSuffix

/-- The identifier of the parameter that takes the cells of a column: every word but the first
begins with a capital. -/
def parameterName (column : String) : String :=
  String.ofList (guardStart (uncapitalize (joinedWords column)))

end CrossBrowser.Naming
