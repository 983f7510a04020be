import CrossBrowser.CSharp.Attribute
import CrossBrowser.CSharp.Layout
import CrossBrowser.TestClass

/-! The source text of a test class.

The text depends on the class and the header alone, so a file can be compared with what would be
generated now. -/
namespace CrossBrowser.CSharp

/-- Where a generated file comes from. -/
structure Header where
  /-- The name of the file that holds the feature. -/
  source : Option String
  /-- The fingerprint of that file. -/
  fingerprint : Option String
  deriving DecidableEq

/-- The name of this program and its version, as they stand in generated files. -/
def generatorName : String := "browsercase 0.1.0"

/-- The lines at the top of a generated file. -/
def headerLines (h : Header) : List String :=
  ["// ------------------------------------------------------------------------------",
    "//  <auto-generated>",
    "//      This code was generated by " ++ generatorName ++ "."] ++
  (h.source.map ("//      Source: " ++ ·)).toList ++
  (h.fingerprint.map ("//      Fingerprint: " ++ ·)).toList ++
  ["//",
    "//      Changes to this file may cause incorrect behavior and will be lost if",
    "//      the code is regenerated.",
    "//  </auto-generated>",
    "// ------------------------------------------------------------------------------"]

/-! ### Statements -/

/-- Builds what starts the browser sessions. -/
def configureRemoteCode : String :=
  "\n".intercalate
    ["var configurationProvider = new ConfigurationProvider();",
      "_remoteBrowserConfigurator = new RemoteBrowserConfigurator(new BrowserHostFactory(configurationProvider),",
      "    new BrowserConfigurationParser(new BrowserStackService(configurationProvider,",
      "        new HttpClientFactory(configurationProvider))),",
      "    new CapabilitiesBuilder(configurationProvider));"]

/-- Starts a browser session and registers it. -/
def createHostCode : String :=
  "\n".intercalate
    ["ScenarioContext.Current.ScenarioContainer.RegisterTypeAs<ConfigurationProvider, IConfigurationProvider>();",
      "ScenarioContext.Current.ScenarioContainer.RegisterTypeAs<BrowserStackService, IBrowserStackService>();",
      "ScenarioContext.Current.ScenarioContainer.RegisterTypeAs<HttpClientFactory, IHttpClientFactory>();",
      "",
      "var scenarioTitle = ScenarioContext.Current.ScenarioInfo.Title;",
      "var featureTitle = FeatureContext.Current.FeatureInfo.Title;",
      "",
      "var testSpecification = new TestSpecification(scenarioTitle, featureTitle);",
      "_host = _remoteBrowserConfigurator.CreateAndConfigure(testSpecification, browserConfiguration);",
      "",
      "ScenarioContext.Current.ScenarioContainer.RegisterInstanceAs(_host);"]

/-- Ends the browser session, if there is one. -/
def disposeHostCode : String :=
  "\n".intercalate
    ["if (_host != null)", "\x7b", "    _host.Dispose();", "    _host = null;", "\x7d"]

/-- The tags of a scenario as an expression; without any, a null of the right type. -/
def scenarioTags (tags : List String) : String :=
  if tags = [] then "((string[])(null))" else arrayLiteral tags

/-- The code of a statement. -/
def statementSteps : Statement → List LayoutStep
  | .resetBrowser => [.line "_currentBrowserConfiguration = null;"]
  | .assignBrowser parameter => [.line ("_currentBrowserConfiguration = " ++ parameter ++ ";")]
  | .registerHost => [.line "InitialiseAndRegisterBrowserHost(_currentBrowserConfiguration);"]
  | .configureRemote => [.lines configureRemoteCode]
  | .createHost => [.lines createHostCode]
  | .disposeHost => [.lines disposeHostCode]
  | .createScenarioInfo title tags =>
    [.line ("TechTalk.SpecFlow.ScenarioInfo scenarioInfo = new TechTalk.SpecFlow.ScenarioInfo(" ++
      stringLiteral title ++ ", " ++ scenarioTags tags ++ ");")]
  | .initializeScenario => [.line "this.ScenarioInitialize(scenarioInfo);"]

/-! ### Methods and classes -/

/-- The declaration of a method and its body. -/
def methodSteps (name : String) (parameters : List Parameter) (statements : List Statement) :
    List LayoutStep :=
  [.line ("public virtual void " ++ name ++ "(" ++ parameterList parameters ++ ")"), .openBlock] ++
    statements.flatMap statementSteps ++ [.closeBlock]

/-- The code of a member. -/
def memberSteps (m : Member) : List LayoutStep :=
  m.markers.map (.line <| markerAttribute ·) ++ methodSteps m.name m.parameters m.statements

/-- The attributes that describe a class or method. -/
def descriptionSteps (markers : List Marker) (description : Option String)
    (categories : List String) : List LayoutStep :=
  markers.map (.line <| markerAttribute ·) ++
    (description.map (.line <| descriptionAttribute ·)).toList ++
    categories.map (.line <| categoryAttribute ·)

/-- The code of a test method. -/
def testMethodSteps (m : TestMethod) : List LayoutStep :=
  descriptionSteps m.markers m.description m.categories ++
    m.cases.map (.line <| caseAttribute ·) ++
    methodSteps m.identifier m.parameters m.statements

/-- The members of a class that are not tests, in the order in which they are written. -/
def memberList (c : TestClass) : List Member :=
  [c.classInitialize, c.scenarioInitialize, c.testCleanup] ++ c.helpers

/-- The code of a class. -/
def classSteps (c : TestClass) : List LayoutStep :=
  descriptionSteps c.markers c.description c.categories ++
    [.line ("public partial class " ++ c.name), .openBlock] ++
    c.fields.map (fun f => .line ("private " ++ f.type ++ " " ++ f.name ++ ";")) ++
    (memberList c).flatMap (fun m => .blank :: memberSteps m) ++
    c.methods.flatMap (fun m => .blank :: testMethodSteps m) ++
    [.closeBlock]

/-- The code of the file that holds a class. -/
def sourceSteps (c : TestClass) (h : Header) : List LayoutStep :=
  (headerLines h).map .line ++
    [.line "#region Designer generated code", .line "#pragma warning disable",
      .line ("namespace " ++ c.namespaceName), .openBlock, .line "using TechTalk.SpecFlow;"] ++
    c.imports.map (fun name => .line ("using " ++ name ++ ";")) ++ [.blank] ++
    classSteps c ++
    [.closeBlock, .line "#pragma warning restore", .line "#endregion"]

/-- The source text of a class. -/
def source (c : TestClass) (h : Header) : String := layOut (sourceSteps c h)

end CrossBrowser.CSharp
