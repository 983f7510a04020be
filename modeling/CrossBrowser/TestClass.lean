import CrossBrowser.TestMethod

/-! Test classes: what is generated for one feature. -/
namespace CrossBrowser

/-- A private field. -/
structure Field where
  type : String
  name : String
  deriving DecidableEq

/-- A method of a test class that is not a test: a step of its life cycle or a helper. -/
structure Member where
  name : String
  markers : List Marker
  parameters : List Parameter
  statements : List Statement
  deriving DecidableEq

/-- How often a statement stands in the member. -/
def Member.count (m : Member) (statement : Statement) : Nat := m.statements.count statement

/-- The class that tests one feature. -/
structure TestClass where
  namespaceName : String
  name : String
  imports : List String
  markers : List Marker
  description : Option String
  categories : List String
  fields : List Field
  helpers : List Member
  classInitialize : Member
  scenarioInitialize : Member
  testCleanup : Member
  methods : List TestMethod
  deriving DecidableEq

namespace TestClass

/-- The member that runs once before the tests of the class. -/
def classInitializeMember : Member :=
  { name := "FeatureSetup", markers := [], parameters := [], statements := [] }

/-- The member that each test calls to begin its scenario. -/
def scenarioInitializeMember : Member :=
  { name := "ScenarioInitialize", markers := []
    parameters := [⟨"TechTalk.SpecFlow.ScenarioInfo", "scenarioInfo", none⟩], statements := [] }

/-- The member that runs after each test. -/
def testCleanupMember : Member :=
  { name := "ScenarioTearDown", markers := [.tearDown], parameters := [], statements := [] }

/-- A class with nothing but the members of its life cycle. -/
def named (namespaceName name : String) : TestClass :=
  { namespaceName, name, imports := [], markers := [], description := none, categories := []
    fields := [], helpers := [], classInitialize := classInitializeMember
    scenarioInitialize := scenarioInitializeMember, testCleanup := testCleanupMember
    methods := [] }

/-- The test method with an identifier. -/
def method? (c : TestClass) (identifier : String) : Option TestMethod :=
  c.methods.find? (·.identifier == identifier)

/-- The helper with a name. -/
def helper? (c : TestClass) (name : String) : Option Member := c.helpers.find? (·.name == name)

/-- How many tests run: one for each case, and one for a method without cases. -/
def totalCases (c : TestClass) : Nat :=
  (c.methods.map fun m => max m.cases.length 1).foldr (· + ·) 0

end TestClass
end CrossBrowser
