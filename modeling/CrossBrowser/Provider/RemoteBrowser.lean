import CrossBrowser.Expansion.Fanout
import CrossBrowser.Provider.Basic

/-! The provider for tests on remote browsers.

Each class gets what a browser session needs: imports, three private fields, a helper that starts a
session, the call of that helper at the beginning of a scenario, and the end of the session after
each test. A method that targets browsers takes the browser as its first parameter and copies it
into a field before anything else. -/
namespace CrossBrowser.RemoteBrowser

/-- The namespaces that hold the types of a browser session. -/
def requiredImports : List String :=
  ["TestStack.Seleno.BrowserStack.Core.Configuration",
    "TestStack.Seleno.BrowserStack.Core.Services.TestSession",
    "TestStack.Seleno.BrowserStack.Core.Capabilities",
    "TestStack.Seleno.BrowserStack.Core.Services.Client"]

/-- The fields that a browser session is kept in. -/
def privateFields : List Field :=
  [⟨"IBrowserHost", "_host"⟩, ⟨"System.String", "_currentBrowserConfiguration"⟩,
    ⟨"RemoteBrowserConfigurator", "_remoteBrowserConfigurator"⟩]

/-- The name of the parameter that takes the browser. -/
def browserParameter : String := "browserConfiguration"

/-- The helper that starts a browser session. -/
def registerHost : Member :=
  { name := "InitialiseAndRegisterBrowserHost", markers := []
    parameters := [⟨"System.String", browserParameter, some .null⟩], statements := [.createHost] }

/-- Adds an element to a list at the end, unless an element that is the same in the sense of `same`
is there. -/
def addMissing {α : Type} (same : α → α → Bool) (xs : List α) (x : α) : List α :=
  if xs.any (same x) then xs else xs ++ [x]

/-! ### The class -/

/-- Marks the class as a fixture, takes the title for its description, and adds what a browser
session needs. -/
def beginClass (d : Draft) (title : String) : Draft :=
  let c := d.testClass
  { d with testClass :=
    { c with
      markers := addMissing (· == ·) c.markers .testFixture
      description := some title
      imports := requiredImports.foldl (addMissing (· == ·)) c.imports
      fields := privateFields.foldl (addMissing fun x y => x.name == y.name) c.fields
      helpers := addMissing (fun x y => x.name == y.name) c.helpers registerHost } }

/-- Adds categories to the class. -/
def classCategories (d : Draft) (categories : List String) : Draft :=
  { d with testClass.categories := d.testClass.categories ++ categories }

/-- Has what starts the browser sessions built before the tests of the class. -/
def classInitialize (d : Draft) : Draft :=
  let step := d.testClass.classInitialize
  { d with testClass.classInitialize :=
    { step with
      markers := addMissing (· == ·) step.markers .testFixtureSetUp
      statements := addMissing (· == ·) step.statements .configureRemote } }

/-- Has the browser session ended after each test. -/
def endClass (d : Draft) : Draft :=
  let step := d.testClass.testCleanup
  { d with testClass.testCleanup :=
    { step with statements := addMissing (· == ·) step.statements .disposeHost } }

/-! ### A method -/

/-- Has a browser session started at the beginning of each scenario, if that is not so yet. -/
def readyScenario (d : Draft) : Draft :=
  if d.scenarioReady then d
  else
    let step := d.testClass.scenarioInitialize
    { d.claimScenario with testClass.scenarioInitialize :=
      { step with statements := step.statements ++ [.registerHost] } }

/-- Marks a method as a test, takes the title for its description, and has it clear the current
browser first. -/
def beginMethod (m : TestMethod) (title : String) : TestMethod :=
  let m := { m.addMarker .test with description := some title }
  if .resetBrowser ∈ m.statements then m
  else { m with statements := .resetBrowser :: m.statements }

/-- Whether a statement sets or clears the current browser. -/
def setsBrowser : Statement → Bool
  | .resetBrowser | .assignBrowser _ => true
  | _ => false

/-- The method with a parameter for the browser in front, unless it has one of that name. -/
def withBrowserParameter (m : TestMethod) : TestMethod :=
  if m.parameters.any (·.name == browserParameter) then m
  else { m with parameters := ⟨"string", browserParameter, none⟩ :: m.parameters }

/-- The method with the copying of the browser as its first statement, in place of any other that
sets or clears it. -/
def withBrowserAssigned (m : TestMethod) : TestMethod :=
  { m with statements := .assignBrowser browserParameter :: m.statements.filter (!setsBrowser ·) }

/-- Takes in categories: the plain ones stay categories, and each browser gets its case. -/
def methodCategories (m : TestMethod) (categories : List String) : TestMethod :=
  let classified := classify categories
  let m := { m with categories := m.categories ++ classified.plain }
  let m := classified.browsers.foldl (fun m id => m.addBrowser id none none) m
  if classified.hasBrowsers then withBrowserAssigned (withBrowserParameter m) else m

/-- The provider for tests on remote browsers. -/
def provider : Provider Id where
  beginClass d title _ := beginClass d title
  classCategories := classCategories
  classInitialize := classInitialize
  beginMethod d m title := (readyScenario d, beginMethod m title)
  methodCategories d m categories := (d, methodCategories m categories)
  row d m cells tags ignored := (d, m.setRow cells tags ignored)
  endClass := endClass

end CrossBrowser.RemoteBrowser
