import CrossBrowser.Error
import CrossBrowser.Naming.Parameters
import CrossBrowser.Provider.RemoteBrowser

/-! Generating the test class of a feature.

Each scenario becomes a method, in order. A method takes a parameter for each column of the
examples and one for the tags of a row, says which scenario it runs, and then begins it; the
provider adds the rest. A feature that is not valid, or two scenarios of which lead to the same
method name, has no class. -/
namespace CrossBrowser.Generation

/-- The name of the parameter that takes the tags of an example row. -/
def tagsParameter : String := "exampleTags"

/-- The names that the parameters for columns must not have. -/
def reservedParameters : List String := [RemoteBrowser.browserParameter, tagsParameter]

/-- The parameters that take the arguments of an example row. -/
def exampleParameters (t : ExampleTable) : List Parameter :=
  (Naming.parameterNames t.columnNames reservedParameters).map (⟨"string", ·, none⟩) ++
    [⟨"string[]", tagsParameter, none⟩]

/-- The statements that begin a scenario. -/
def scenarioStatements (s : Scenario) : List Statement :=
  [.createScenarioInfo s.title (classify s.tags).plain, .initializeScenario]

/-- A method with the parameters and statements of a scenario added to those it has. -/
def addScenario (m : TestMethod) (s : Scenario) : TestMethod :=
  { m with
    parameters := m.parameters ++ (s.examples.map exampleParameters).getD []
    statements := m.statements ++ scenarioStatements s }

variable {m : Type → Type} [Monad m] (p : Provider m)

/-- Has the provider take in example rows, in order. -/
def takeRows (d : Draft) (method : TestMethod) : List ExampleRow → m (Draft × TestMethod)
  | [] => return (d, method)
  | row :: rest => do
    let (d, method) ← p.row d method row.cells row.tags row.ignored
    takeRows d method rest

/-- The method of a scenario, and the draft after making it. -/
def makeMethod (d : Draft) (s : Scenario) : m (Draft × TestMethod) := do
  let (d, method) ← p.beginMethod d (.named (Naming.methodName s.title)) s.title
  let (d, method) ← p.methodCategories d (addScenario method s) s.tags
  takeRows p d method s.rows

/-- The draft with the methods of scenarios added, in order, up to the first one whose method name
is taken. -/
def addScenarios (d : Draft) : List Scenario → m (Except FeatureFault Draft)
  | [] => return .ok d
  | s :: rest =>
    let name := Naming.methodName s.title
    if (d.testClass.method? name).isSome then return .error (.methodNameTaken s.title name)
    else do
      let (d, method) ← makeMethod p d s
      addScenarios (d.addMethod method) rest

/-- The draft of the class of a feature before any of its methods. -/
def beginDraft (namespaceName : String) (f : Feature) : m Draft := do
  let d ← p.beginClass (.named namespaceName (Naming.className f.title)) f.title f.description
  let d ← if f.tags = [] then pure d else p.classCategories d f.tags
  p.classInitialize d

/-- The class that tests a feature, made with a provider, or what is wrong with the feature. -/
def generateWith (namespaceName : String) (f : Feature) : m (Except FeatureFault TestClass) :=
  match f.fault? with
  | some fault => return .error fault
  | none => do
    match ← addScenarios p (← beginDraft p namespaceName f) f.scenarios with
    | .error fault => return .error fault
    | .ok d => return .ok (← p.endClass d).testClass

/-- The class that tests a feature on remote browsers, or what is wrong with the feature. -/
def generate (namespaceName : String) (f : Feature) : Except FeatureFault TestClass :=
  Id.run (generateWith RemoteBrowser.provider namespaceName f)

end CrossBrowser.Generation
