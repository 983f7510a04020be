/-! Features: what the tests are generated from.

A feature has scenarios, and a scenario may have a table of examples, each row of which is a run of
the scenario with its cells for arguments. -/
namespace CrossBrowser

/-- One example of a scenario. -/
structure ExampleRow where
  cells : List String
  tags : List String
  ignored : Bool
  deriving DecidableEq

/-- The examples of a scenario. Without columns the rows have a width of their own. -/
structure ExampleTable where
  columns : List String
  rows : List ExampleRow
  deriving DecidableEq

/-- A behaviour to test. -/
structure Scenario where
  title : String
  /-- The categories as they were written, those that target browsers included. -/
  tags : List String
  examples : Option ExampleTable
  deriving DecidableEq

/-- The example rows of a scenario. -/
def Scenario.rows (s : Scenario) : List ExampleRow := (s.examples.map (·.rows)).getD []

/-- A group of scenarios that are tested together. -/
structure Feature where
  title : String
  description : Option String
  tags : List String
  scenarios : List Scenario
  deriving DecidableEq

/-- The row with these cells and nothing else. -/
def ExampleRow.ofCells (cells : List String) : ExampleRow := ⟨cells, [], false⟩

namespace ExampleTable

/-- The number of cells in the first row. -/
def firstWidth (t : ExampleTable) : Nat := (t.rows.head?.map (·.cells.length)).getD 0

/-- The columns of the table; those of a table without any are named by position. -/
def columnNames (t : ExampleTable) : List String :=
  if t.columns = [] then (List.range t.firstWidth).map fun i => "arg" ++ toString i else t.columns

end ExampleTable
end CrossBrowser
