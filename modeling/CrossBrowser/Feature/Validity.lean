import CrossBrowser.Feature.Basic
import CrossBrowser.Text.Blank

/-! Which features can be tested.

Titles must say something, and the rows of a table must have as many cells as it has columns, or,
without columns, as its first row has. `Feature.fault?` finds the first thing that is wrong;
`Feature.Valid` says what it is for nothing to be. -/
namespace CrossBrowser

/-- What is wrong with a feature. -/
inductive FeatureFault where
  /-- The feature has a blank title. -/
  | blankTitle
  /-- A scenario of the feature with this title has a blank title. -/
  | blankScenarioTitle (feature : String)
  /-- A row, counted from one, has another width than the columns. -/
  | rowAgainstColumns (row : Nat) (scenario : String) (cells columns : Nat)
  /-- A row, counted from one, has another width than the first row. -/
  | rowAgainstFirst (row : Nat) (scenario : String) (cells first : Nat)
  /-- A scenario leads to the name of a method that the class has already. -/
  | methodNameTaken (scenario method : String)
  deriving DecidableEq

namespace FeatureFault

/-- What is wrong, in words. -/
def message : FeatureFault → String
  | .blankTitle => "feature title is empty"
  | .blankScenarioTitle feature => s!"a scenario in feature '{feature}' has an empty title"
  | .rowAgainstColumns row scenario cells columns =>
    s!"example row {row} of scenario '{scenario}' has {cells} cell(s) but {columns} column(s) are declared"
  | .rowAgainstFirst row scenario cells first =>
    s!"example row {row} of scenario '{scenario}' has {cells} cell(s) but the first row has {first}"
  | .methodNameTaken scenario method =>
    s!"scenario '{scenario}' produces the method name '{method}', which is already taken"

/-- What can be done about it, if that is not plain. -/
def help : FeatureFault → Option String
  | .blankTitle => none
  | .blankScenarioTitle _ => some "Every scenario needs a title; it becomes the test description."
  | .rowAgainstColumns .. => some "Every example row must supply one value per column."
  | .rowAgainstFirst .. => some "Every example row must supply the same number of values."
  | .methodNameTaken .. =>
    some "Rename one of the scenarios so their titles differ in letters or digits."

end FeatureFault

/-- The first row, counted on from `index`, that has not `width` cells: its number and its width. -/
def oddRow? (width : Nat) : Nat → List ExampleRow → Option (Nat × Nat)
  | _, [] => none
  | index, row :: rest =>
    if row.cells.length = width then oddRow? width (index + 1) rest
    else some (index, row.cells.length)

/-- The number of cells that every row of a table must have. -/
def ExampleTable.width (t : ExampleTable) : Nat :=
  if t.columns = [] then t.firstWidth else t.columns.length

/-- The first thing wrong with the table of a scenario. -/
def ExampleTable.fault? (t : ExampleTable) (scenario : String) : Option FeatureFault :=
  (oddRow? t.width 1 t.rows).map fun (row, cells) =>
    if t.columns = [] then .rowAgainstFirst row scenario cells t.width
    else .rowAgainstColumns row scenario cells t.width

/-- The first thing wrong with a scenario of the feature with this title. -/
def Scenario.fault? (s : Scenario) (feature : String) : Option FeatureFault :=
  if Text.isBlankText s.title then some (.blankScenarioTitle feature)
  else s.examples.bind (·.fault? s.title)

namespace Feature

/-- The first thing wrong with a feature, the names of its methods left aside: its own title, then
scenario by scenario the title and the rows. -/
def fault? (f : Feature) : Option FeatureFault :=
  if Text.isBlankText f.title then some .blankTitle else f.scenarios.findSome? (·.fault? f.title)

/-- Nothing is wrong with a table: all rows have its width. -/
def TableValid (t : ExampleTable) : Prop := ∀ row ∈ t.rows, row.cells.length = t.width

/-- Nothing is wrong with a scenario. -/
def ScenarioValid (s : Scenario) : Prop :=
  Text.isBlankText s.title = false ∧ ∀ t, s.examples = some t → TableValid t

/-- Nothing is wrong with a feature, the names of its methods left aside. -/
def Valid (f : Feature) : Prop :=
  Text.isBlankText f.title = false ∧ ∀ s ∈ f.scenarios, ScenarioValid s

end Feature
end CrossBrowser
