import CrossBrowser.Text.Lines

/-! Laying out lines of code with indentation.

Code is laid out by steps. Lines are indented by the blocks that are open; an empty line is left
empty. -/
namespace CrossBrowser.CSharp

/-- One step of laying out code. -/
inductive LayoutStep where
  /-- Writes a line. -/
  | line (text : String)
  /-- Writes each line of a text. -/
  | lines (text : String)
  /-- Writes an empty line. -/
  | blank
  /-- Begins a block: a line with the opening brace, and the lines after it indented further. -/
  | openBlock
  /-- Ends a block. Where none is open, only the line with the closing brace is written. -/
  | closeBlock
  deriving DecidableEq

/-- Code laid out so far, and the number of blocks that are open. -/
structure Layout where
  text : String
  depth : Nat
  deriving DecidableEq

namespace Layout

def empty : Layout := ⟨"", 0⟩

/-- The blanks in front of a line within some blocks. -/
def indentation (depth : Nat) : String := String.join (List.replicate depth "    ")

/-- A line as it is written within some blocks. -/
def indented (depth : Nat) (line : String) : String :=
  (if line = "" then "" else indentation depth ++ line) ++ "\n"

/-- Writes a line. -/
def addLine (l : Layout) (line : String) : Layout :=
  { l with text := l.text ++ indented l.depth line }

/-- The code after one more step. -/
def step (l : Layout) : LayoutStep → Layout
  | .line text => l.addLine text
  | .lines text => (Text.lines text).foldl addLine l
  | .blank => l.addLine ""
  | .openBlock => { l.addLine "\x7b" with depth := l.depth + 1 }
  | .closeBlock => { l with depth := l.depth - 1 }.addLine "\x7d"

/-- The code after more steps. -/
def after (l : Layout) (steps : List LayoutStep) : Layout := steps.foldl step l

end Layout

/-- The code that steps lay out. -/
def layOut (steps : List LayoutStep) : String := (Layout.empty.after steps).text

end CrossBrowser.CSharp
