/-! The lines of a text.

A text is cut at its line feeds in two ways: `pieces` keeps everything between the line feeds,
`lines` reads the text as a file of lines, where a final line feed ends the last line rather than
beginning an empty one and a carriage return before a line feed belongs to the line's end. -/
namespace CrossBrowser.Text

/-- The pieces of a text between its line feeds; an empty text is one empty piece. -/
def pieces (s : String) : List String := (s.toList.splitOn '\n').map String.ofList

/-- A line without the carriage return that ends it, if one does. -/
def dropReturn (line : List Char) : List Char :=
  if line.getLast? = some '\r' then line.dropLast else line

/-- The lines of a list of characters. -/
def lineLists (cs : List Char) : List (List Char) :=
  let parts := cs.splitOn '\n'
  let last := parts.getLast?.getD []
  parts.dropLast.map dropReturn ++ if last = [] then [] else [last]

/-- The lines of a text, without their ends. A last line that no line feed ends is kept with
everything in it, if there is anything in it. -/
def lines (s : String) : List String := (lineLists s.toList).map String.ofList

end CrossBrowser.Text
