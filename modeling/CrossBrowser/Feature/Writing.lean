import CrossBrowser.Document.Json.Basic
import CrossBrowser.Feature.Basic

/-! Features as JSON.

Every field is written, a row always as a record; what is absent is written as null. -/
namespace CrossBrowser
open Document

/-- A row as JSON. -/
def ExampleRow.toJson (r : ExampleRow) : Json :=
  .record [("cells", .texts r.cells), ("tags", .texts r.tags), ("ignored", .bool r.ignored)]

/-- A table of examples as JSON. -/
def ExampleTable.toJson (t : ExampleTable) : Json :=
  .record [("columns", .texts t.columns), ("rows", .array (t.rows.map ExampleRow.toJson))]

/-- A scenario as JSON. -/
def Scenario.toJson (s : Scenario) : Json :=
  .record
    [("title", .text s.title), ("tags", .texts s.tags),
      ("examples", (s.examples.map ExampleTable.toJson).getD .null)]

/-- A feature as JSON. -/
def Feature.toJson (f : Feature) : Json :=
  .record
    [("title", .text f.title), ("description", .optionalText f.description),
      ("tags", .texts f.tags), ("scenarios", .array (f.scenarios.map Scenario.toJson))]

end CrossBrowser
