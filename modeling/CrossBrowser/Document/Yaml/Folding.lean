import CrossBrowser.Document.Yaml.Cursor

/-! Folding of lines.

Where a scalar goes on over several lines, the blanks and line ends between two words count for
little: one line end is a space, further ones are line feeds, and the blanks around them are
nothing. -/
namespace CrossBrowser.Document.Yaml

/-- What stands between two words of a scalar. -/
structure Gap where
  /-- The blanks before the first line end. -/
  blanks : List Char
  /-- Whether there is a line end at all, be it an escaped one. -/
  broken : Bool
  /-- The first line end, unless that was escaped. -/
  first : Option Char
  /-- The line ends after the first. -/
  further : List Char

namespace Gap

/-- Nothing yet. -/
def empty : Gap := ⟨[], false, none, []⟩

/-- A gap that begins with an escaped line end, which counts for nothing. -/
def escaped : Gap := ⟨[], true, none, []⟩

/-- The gap with one more blank. -/
def addBlank (g : Gap) (c : Char) : Gap :=
  if g.broken then g else { g with blanks := g.blanks ++ [c] }

/-- The gap with one more line end. -/
def addBreak (g : Gap) (c : Char) : Gap :=
  if g.broken then { g with further := g.further ++ [c] }
  else { g with blanks := [], broken := true, first := some c }

/-- What the gap is in the text of the scalar. -/
def folded (g : Gap) : List Char :=
  if !g.broken then g.blanks
  else if g.first = some '\n' then (if g.further = [] then [' '] else g.further)
  else g.first.toList ++ g.further

end Gap

namespace Cursor

/-- The cursor after the blanks and line ends in front, and the gap they add up to. `allowed` says
of a cursor in front of a blank, and whether the line is a new one, if it may stand there. None if
some blank may not. -/
def gap? (allowed : Bool → Cursor → Bool) : Nat → Gap → Cursor → Option (Gap × Cursor)
  | 0, g, c => some (g, c)
  | fuel + 1, g, c =>
    match c.lineEnd? with
    | some (b, next) => gap? allowed fuel (g.addBreak b) next
    | none =>
      match c.rest with
      | b :: _ =>
        if isBlank b then
          if allowed g.broken c then gap? allowed fuel (g.addBlank b) (c.advance 1) else none
        else some (g, c)
      | [] => some (g, c)

end Cursor
end CrossBrowser.Document.Yaml
