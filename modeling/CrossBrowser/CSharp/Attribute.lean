import CrossBrowser.CSharp.Literal
import CrossBrowser.TestMethod

/-! Attributes of classes and methods, and parameter lists. -/
namespace CrossBrowser.CSharp

/-- The namespace of the attributes. -/
def attributeNamespace : String := "NUnit.Framework"

/-- An attribute with the text of its arguments. -/
def attributeText (name arguments : String) : String :=
  "[" ++ attributeNamespace ++ "." ++ name ++ "(" ++ arguments ++ ")]"

/-- The name of the attribute that a marker stands for. -/
def markerName : Marker → String
  | .testFixture => "TestFixtureAttribute"
  | .testFixtureSetUp => "TestFixtureSetUpAttribute"
  | .test => "TestAttribute"
  | .tearDown => "TearDownAttribute"

/-- The attribute of a marker. -/
def markerAttribute (marker : Marker) : String := attributeText (markerName marker) ""

/-- The attribute that describes a class or method. -/
def descriptionAttribute (text : String) : String :=
  attributeText "DescriptionAttribute" (stringLiteral text)

/-- The attribute that puts a class or method into a category. -/
def categoryAttribute (text : String) : String := attributeText "CategoryAttribute" (stringLiteral text)

/-- A named argument of an attribute, if it has a value. -/
def namedArgument (name : String) (value : Option String) : List String :=
  (value.map fun v => name ++ "=" ++ stringLiteral v).toList

/-- The arguments of the attribute of a test case: those it passes to the method, then those that
say how it runs. -/
def caseArguments (c : TestCase) : List String :=
  c.arguments.map literal ++ namedArgument "Ignore" c.ignoreReason ++
    namedArgument "Category" c.category ++ namedArgument "TestName" c.name

/-- The attribute of a test case. -/
def caseAttribute (c : TestCase) : String :=
  attributeText "TestCaseAttribute" (", ".intercalate (caseArguments c))

/-- A parameter as it is declared. -/
def parameter (p : Parameter) : String :=
  p.type ++ " " ++ p.name ++ ((p.default.map fun value => " = " ++ literal value).getD "")

/-- The parameters of a method as they are declared. -/
def parameterList (ps : List Parameter) : String := ", ".intercalate (ps.map parameter)

end CrossBrowser.CSharp
