import CrossBrowser.TestCase

/-! What an example row contributes to a test case.

The cells become one argument each, and the row's tags follow them as a last argument. A row
without tags passes `null` there: an empty list of tags would be taken for an argument that was not
supplied, and the case would not run. -/
namespace CrossBrowser

/-- Why an ignored row does not run. -/
def ignoredRowReason : String := "Ignored scenario"

/-- What an example row contributes to a test case. -/
structure RowArguments where
  /-- The cells as they were written, for the names of cases. -/
  cells : List String
  arguments : List Literal
  ignoreReason : Option String
  deriving DecidableEq

namespace RowArguments

/-- The argument that carries the tags of a row. -/
def tagsLiteral (tags : List String) : Literal := if tags = [] then .null else .texts tags

/-- What a row with these cells and tags contributes. -/
def ofRow (cells tags : List String) (ignored : Bool) : RowArguments where
  cells := cells
  arguments := cells.map .text ++ [tagsLiteral tags]
  ignoreReason := if ignored then some ignoredRowReason else none

/-- The argument that carries the tags. -/
def tags? (r : RowArguments) : Option Literal := r.arguments.getLast?

/-- The case of the row on no browser in particular. -/
def toCase (r : RowArguments) : TestCase :=
  { arguments := r.arguments, ignoreReason := r.ignoreReason, category := none, name := none
    origin := .row }

end RowArguments
end CrossBrowser
