import CrossBrowser.Browser.Identifier
import CrossBrowser.Expansion.Row
import CrossBrowser.Text.Blank
import CrossBrowser.TestMethod

/-! Spreading test cases over browsers.

Each browser that a method targets gets a case of its own, with the browser's identifier as its
first argument. With example rows, each row gets a case on each browser, and the cases of the
browsers alone go. `expandRow` says which cases one row gives; `TestMethod.setRow` adds them to a
method. -/
namespace CrossBrowser

/-- The case that runs on a browser, with what a row contributes if there is one. -/
def browserCase (id name : String) (row : Option RowArguments) : TestCase :=
  { arguments := .text id :: (row.map (·.arguments)).getD []
    ignoreReason := row.bind (·.ignoreReason)
    category := some (browserLabel id)
    name := some name
    origin := if row.isSome then .browserRow else .browser }

/-- A cell as it stands in the name of a case: in quotes, and with a separator after it. -/
def namedCell (cell : String) : String := "\"" ++ cell ++ "\" ,"

/-- The name of a case for a browser and a row. The separators after the last cell are dropped, and
so are blanks at the very end. -/
def rowCaseName (title label : String) (cells : List String) : String :=
  let joined := Text.trimEnd (fun c => c == ' ' || c == ',') (String.join (cells.map namedCell))
  Text.trimEnd Text.isBlank (title ++ " on " ++ label ++ " with: " ++ joined)

/-- The name of a case for a browser without a row. -/
def browserCaseName (title label : String) : String := title ++ " on " ++ label

/-- The distinct elements of a list, where they first occur, leaving out those in `seen`. -/
def distinct {α : Type} [DecidableEq α] (seen : List α) : List α → List α
  | [] => []
  | x :: rest => if x ∈ seen then distinct seen rest else x :: distinct (x :: seen) rest

/-- The case of a row on a browser. -/
def browserRowCase (title : String) (row : RowArguments) (id : String) : TestCase :=
  browserCase id (rowCaseName title (browserLabel id) row.cells) (some row)

/-- The cases one row gives: one on each distinct browser, or a single one without browsers. -/
def expandRow (title : String) (cells browsers tags : List String) (ignored : Bool) :
    List TestCase :=
  let row := RowArguments.ofRow cells tags ignored
  if browsers = [] then [row.toCase] else (distinct [] browsers).map (browserRowCase title row)

namespace TestMethod

/-- Records a browser and adds its case. The name is made from the method's title unless one is
given. -/
def addBrowser (m : TestMethod) (id : String) (name : Option String)
    (row : Option RowArguments) : TestMethod :=
  let name := name.getD (browserCaseName m.title (browserLabel id))
  { m with metadata := m.metadata.insertIfAbsent (browserKey id) id }.pushCase
    (browserCase id name row)

/-- Adds the case of a row on every browser recorded. The cases of the browsers alone are removed
first: those of the rows take their place. -/
def fanOut (m : TestMethod) (row : RowArguments) : TestMethod :=
  m.metadata.browsers.foldl
    (fun m' id => m'.addBrowser id (some (rowCaseName m.title (browserLabel id) row.cells)) (some row))
    (m.removeCases .browser)

/-- Adds an example row: on every browser recorded, or once if there are none. -/
def setRow (m : TestMethod) (cells tags : List String) (ignored : Bool) : TestMethod :=
  let row := RowArguments.ofRow cells tags ignored
  if m.metadata.browsers = [] then m.pushCase row.toCase else m.fanOut row

end TestMethod
end CrossBrowser
