import CrossBrowser.Document.Json.Basic
import CrossBrowser.Text.Hex

/-! Writing JSON.

Values are written on one line, or spread over lines with two blanks of indentation for each level.
In strings only the quote, the backslash and the control characters are escaped. -/
namespace CrossBrowser.Document.Json

/-- What a character of a string is written as. -/
def escapeChar (c : Char) : List Char :=
  if c = '"' ∨ c = '\\' then ['\\', c]
  else if c = '\n' then ['\\', 'n']
  else if c = '\r' then ['\\', 'r']
  else if c = '\t' then ['\\', 't']
  else if c = '\x08' then ['\\', 'b']
  else if c = '\x0c' then ['\\', 'f']
  else if c.toNat < 0x20 then ['\\', 'u', '0', '0', Text.hexDigit (c.toNat / 16), Text.hexDigit c.toNat]
  else [c]

/-- A text as a string, the quotes included. -/
def writeText (s : String) : String :=
  String.ofList ('"' :: s.toList.flatMap escapeChar ++ ['"'])

/-- A string; one that is no text is written as the replacement character. -/
def writeString (text : Option String) : String := writeText (text.getD "\ufffd")

/-- The characters of digits. -/
def writeDigits (digits : List Nat) : String := String.ofList (digits.map Nat.digitChar)

/-- A number as it was written. -/
def writeNumber (n : JsonNumber) : String :=
  (if n.negative then "-" else "") ++ writeDigits n.whole ++
    (if n.fraction = [] then "" else "." ++ writeDigits n.fraction) ++
    (if n.exponent = [] then ""
     else (if n.exponentNegative then "e-" else "e") ++ writeDigits n.exponent)

/-- How the parts of an array or object are set apart at some level of nesting. -/
structure Spacing where
  /-- What stands before each part. -/
  before : Nat → String
  /-- What stands before the closing bracket. -/
  last : Nat → String
  /-- What stands between a name and its value. -/
  colon : String

/-- Everything on one line, without blanks. -/
def Spacing.compact : Spacing := ⟨fun _ => "", fun _ => "", ":"⟩

/-- The beginning of a new line at some level of nesting. -/
def newLine (level : Nat) : String := "\n" ++ String.join (List.replicate level "  ")

/-- Each part on a line of its own. -/
def Spacing.pretty : Spacing := ⟨fun level => newLine (level + 1), newLine, ": "⟩

/-- Parts between brackets. Nothing stands between the brackets if there are no parts. -/
def bracketed (s : Spacing) (level : Nat) (opening closing : String) (parts : List String) :
    String :=
  if parts = [] then opening ++ closing
  else opening ++ ",".intercalate (parts.map (s.before level ++ ·)) ++ s.last level ++ closing

mutual

/-- A value at some level of nesting. -/
def write (s : Spacing) (level : Nat) : Json → String
  | .null => "null"
  | .bool true => "true"
  | .bool false => "false"
  | .number n => writeNumber n
  | .string text => writeString text
  | .array items => bracketed s level "[" "]" (writeItems s (level + 1) items)
  | .object members => bracketed s level "\x7b" "\x7d" (writeMembers s (level + 1) members)

/-- The items of an array. -/
def writeItems (s : Spacing) (level : Nat) : List Json → List String
  | [] => []
  | item :: rest => write s level item :: writeItems s level rest

/-- The members of an object. -/
def writeMembers (s : Spacing) (level : Nat) : List (Option String × Json) → List String
  | [] => []
  | (name, value) :: rest =>
    (writeString name ++ s.colon ++ write s level value) :: writeMembers s level rest

end

/-- A value on one line. -/
def compact (j : Json) : String := write .compact 0 j

/-- A value spread over lines. -/
def pretty (j : Json) : String := write .pretty 0 j

end CrossBrowser.Document.Json
