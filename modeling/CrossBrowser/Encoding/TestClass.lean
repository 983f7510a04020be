import CrossBrowser.Encoding.TestMethod
import CrossBrowser.TestClass

/-! Test classes as JSON. -/
namespace CrossBrowser
open Document

/-- A field as JSON. -/
def Field.toJson (f : Field) : Json := .record [("ty", .text f.type), ("name", .text f.name)]

/-- A member as JSON. -/
def Member.toJson (m : Member) : Json :=
  .record
    [("name", .text m.name), ("markers", .array (m.markers.map Marker.toJson)),
      ("parameters", .array (m.parameters.map Parameter.toJson)),
      ("statements", .array (m.statements.map Statement.toJson))]

/-- A test class as JSON. -/
def TestClass.toJson (c : TestClass) : Json :=
  .record
    [("namespace", .text c.namespaceName), ("name", .text c.name), ("imports", .texts c.imports),
      ("markers", .array (c.markers.map Marker.toJson)),
      ("description", .optionalText c.description), ("categories", .texts c.categories),
      ("fields", .array (c.fields.map Field.toJson)),
      ("helpers", .array (c.helpers.map Member.toJson)),
      ("class_initialize", c.classInitialize.toJson),
      ("scenario_initialize", c.scenarioInitialize.toJson),
      ("test_cleanup", c.testCleanup.toJson),
      ("test_methods", .array (c.methods.map TestMethod.toJson))]

end CrossBrowser
