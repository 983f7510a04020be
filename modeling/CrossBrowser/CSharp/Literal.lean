import CrossBrowser.TestCase

/-! Literals of C#.

A string is written between double quotes, with an escape for each character that would end or
change it. -/
namespace CrossBrowser.CSharp

/-- The characters that a character of a string is written as. -/
def escapeChar (c : Char) : List Char :=
  if c = '"' then ['\\', '"']
  else if c = '\\' then ['\\', '\\']
  else if c = '\n' then ['\\', 'n']
  else if c = '\r' then ['\\', 'r']
  else if c = '\t' then ['\\', 't']
  else if c = '\x00' then ['\\', '0']
  else [c]

/-- A string as a literal, the quotes included. -/
def stringLiteral (value : String) : String :=
  String.ofList ('"' :: value.toList.flatMap escapeChar ++ ['"'])

/-- A list of strings as an array expression. -/
def arrayLiteral (values : List String) : String :=
  "new string[] \x7b" ++ ", ".intercalate (values.map stringLiteral) ++ "\x7d"

/-- An argument as an expression. -/
def literal : Literal → String
  | .null => "null"
  | .text value => stringLiteral value
  | .texts values => arrayLiteral values

/-! ### Reading a string literal

The escapes that give a character by its number are not read: none is ever written. -/

/-- The character that a simple escape stands for, given the character after the backslash. -/
def unescapeChar? (c : Char) : Option Char :=
  if c = '"' ∨ c = '\'' ∨ c = '\\' then some c
  else if c = 'n' then some '\n'
  else if c = 'r' then some '\r'
  else if c = 't' then some '\t'
  else if c = '0' then some '\x00'
  else if c = 'a' then some '\x07'
  else if c = 'b' then some '\x08'
  else if c = 'f' then some '\x0c'
  else if c = 'v' then some '\x0b'
  else none

/-- The characters that end a line of C#, which a string literal must not hold as they are. -/
def endsLine (c : Char) : Bool :=
  c == '\n' || c == '\r' || c == '\u0085' || c == '\u2028' || c == '\u2029'

/-- The value of a string literal whose opening quote has been read, and what follows its closing
quote. None if it is not well formed. -/
def readStringBody : List Char → Option (List Char × List Char)
  | [] => none
  | '"' :: rest => some ([], rest)
  | '\\' :: c :: rest => do
    let d ← unescapeChar? c
    let (value, rest) ← readStringBody rest
    return (d :: value, rest)
  | c :: rest =>
    if c = '\\' ∨ endsLine c then none
    else (readStringBody rest).map fun (value, rest) => (c :: value, rest)

/-- The value of a string literal. None if the text is not exactly one well-formed literal. -/
def readStringLiteral (text : String) : Option String :=
  match text.toList with
  | '"' :: rest =>
    match readStringBody rest with
    | some (value, []) => some (String.ofList value)
    | _ => none
  | _ => none

end CrossBrowser.CSharp
