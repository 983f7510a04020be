import CrossBrowser.Document.Json.Basic
import CrossBrowser.TestMethod

/-! Test methods as JSON. -/
namespace CrossBrowser
open Document

/-- An argument as JSON. -/
def Literal.toJson : Literal → Json
  | .null => .text "null"
  | .text value => .record [("str", .text value)]
  | .texts values => .record [("str_array", .texts values)]

/-- What a case was made from, as JSON. -/
def Origin.toJson : Origin → Json
  | .row => .text "row"
  | .browser => .text "browser"
  | .browserRow => .text "browser_row"

/-- A test case as JSON. -/
def TestCase.toJson (c : TestCase) : Json :=
  .record
    [("arguments", .array (c.arguments.map Literal.toJson)),
      ("ignore_reason", .optionalText c.ignoreReason), ("category", .optionalText c.category),
      ("name", .optionalText c.name), ("origin", c.origin.toJson)]

/-- A marker as JSON. -/
def Marker.toJson : Marker → Json
  | .testFixture => .text "TestFixture"
  | .testFixtureSetUp => .text "TestFixtureSetUp"
  | .test => .text "Test"
  | .tearDown => .text "TearDown"

/-- A parameter as JSON. -/
def Parameter.toJson (p : Parameter) : Json :=
  .record
    [("ty", .text p.type), ("name", .text p.name),
      ("default", (p.default.map Literal.toJson).getD .null)]

/-- A statement as JSON. -/
def Statement.toJson : Statement → Json
  | .resetBrowser => .text "reset_browser_configuration"
  | .assignBrowser parameter =>
    .record [("assign_browser_configuration", .record [("parameter", .text parameter)])]
  | .registerHost => .text "register_browser_host"
  | .configureRemote => .text "configure_remote_browser"
  | .createHost => .text "create_browser_host"
  | .disposeHost => .text "dispose_browser_host"
  | .createScenarioInfo title tags =>
    .record [("create_scenario_info", .record [("title", .text title), ("tags", .texts tags)])]
  | .initializeScenario => .text "initialize_scenario"

/-- A test method as JSON. The metadata is not part of it. -/
def TestMethod.toJson (m : TestMethod) : Json :=
  .record
    [("identifier", .text m.identifier), ("description", .optionalText m.description),
      ("markers", .array (m.markers.map Marker.toJson)), ("categories", .texts m.categories),
      ("parameters", .array (m.parameters.map Parameter.toJson)),
      ("statements", .array (m.statements.map Statement.toJson)),
      ("test_cases", .array (m.cases.map TestCase.toJson))]

end CrossBrowser
