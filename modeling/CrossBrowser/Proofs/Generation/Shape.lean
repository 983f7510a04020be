import CrossBrowser.Proofs.Generation.Invocable

/-! What a generated class is, field by field.

The class of a feature and the method of a scenario are built step by step, partly by editing what
is there. Here is what comes out of it: `featureClass` and `shapedMethod` say it without any
steps. -/
namespace CrossBrowser.Generation
open RemoteBrowser

/-! ### A method -/

/-- The statement with which a method of a scenario begins: it copies the browser if it takes one,
and otherwise clears the current one. -/
def firstStatement (s : Scenario) : Statement :=
  if s.browsers = [] then .resetBrowser else .assignBrowser browserParameter

/-- The method of a scenario, field by field. -/
def shapedMethod (s : Scenario) : TestMethod where
  identifier := Naming.methodName s.title
  description := some s.title
  markers := [.test]
  categories := (classify s.tags).plain
  parameters := (if s.browsers = [] then [] else [browserParameterOf]) ++
    (s.examples.map exampleParameters).getD []
  statements := firstStatement s :: scenarioStatements s
  cases := scenarioCases s
  metadata := .ofBrowsers s.browsers

theorem scenarioMethod_statements (s : Scenario) :
    (scenarioMethod s).statements = firstStatement s :: scenarioStatements s := by
  have hwith : ∀ m : TestMethod, (withBrowserParameter m).statements = m.statements := by
    intro m
    unfold withBrowserParameter
    split <;> rfl
  rw [scenarioMethod_eq, openedMethod_eq, firstStatement]
  by_cases hb : s.browsers = []
  · rw [if_pos hb, if_pos hb]
    rfl
  · rw [if_neg hb, if_neg hb]
    show .assignBrowser browserParameter ::
      (withBrowserParameter (browsedMethod s)).statements.filter (!setsBrowser ·) = _
    rw [hwith]
    rfl

theorem scenarioMethod_shape (s : Scenario) : scenarioMethod s = shapedMethod s := by
  obtain ⟨parameters, statements, hframe⟩ := openedMethod_frame s
  have hparameters := scenarioMethod_parameters s
  have hstatements := scenarioMethod_statements s
  rw [scenarioMethod_eq, hframe] at hparameters hstatements ⊢
  obtain rfl : parameters = _ := hparameters
  obtain rfl : statements = _ := hstatements
  rfl

/-- What holds of the parameter for the browser, of that for the tags of a row, and of one for each
column, holds of all parameters of a method. -/
theorem forall_parameters {P : Parameter → Prop} (s : Scenario) (hbrowser : P browserParameterOf)
    (hcolumns : ∀ t, s.examples = some t →
      ∀ name ∈ Naming.parameterNames t.columnNames reservedParameters, P ⟨"string", name, none⟩)
    (htags : P ⟨"string[]", tagsParameter, none⟩) : ∀ p ∈ (shapedMethod s).parameters, P p := by
  show ∀ p ∈ _ ++ _, P p
  rw [List.forall_mem_append]
  constructor
  · split
    · exact List.forall_mem_nil _
    · exact List.forall_mem_singleton.mpr hbrowser
  · cases ht : s.examples with
    | none => exact List.forall_mem_nil _
    | some t =>
      show ∀ p ∈ exampleParameters t, P p
      rw [exampleParameters, List.forall_mem_append, List.forall_mem_map, List.forall_mem_singleton]
      exact ⟨hcolumns t ht, htags⟩

/-! ### The class -/

/-- The class of a feature, field by field. -/
def featureClass (namespaceName : String) (f : Feature) : TestClass where
  namespaceName := namespaceName
  name := Naming.className f.title
  imports := requiredImports
  markers := [.testFixture]
  description := some f.title
  categories := f.tags
  fields := privateFields
  helpers := [registerHost]
  classInitialize :=
    { TestClass.classInitializeMember with
      markers := [.testFixtureSetUp], statements := [.configureRemote] }
  scenarioInitialize :=
    { TestClass.scenarioInitializeMember with
      statements := if f.scenarios = [] then [] else [.registerHost] }
  testCleanup := { TestClass.testCleanupMember with statements := [.disposeHost] }
  methods := f.scenarios.map shapedMethod

/-- The draft of a class before any of its methods: the parts that scenarios and the end of the
class add are missing. -/
theorem beginDraft_shape (namespaceName : String) (f : Feature) :
    (beginDraft (m := Id) provider namespaceName f : Draft) =
      ⟨{ featureClass namespaceName f with
          scenarioInitialize := TestClass.scenarioInitializeMember
          testCleanup := TestClass.testCleanupMember
          methods := [] }, false⟩ := by
  by_cases h : f.tags = []
  · simp only [beginDraft, featureClass, h]
    rfl
  · simp only [beginDraft, if_neg h]
    rfl

/-- The class that is generated for a feature, if any is, is the one with this shape. -/
theorem generate_shape (namespaceName : String) (f : Feature) (c : TestClass)
    (h : generate namespaceName f = .ok c) : c = featureClass namespaceName f := by
  obtain ⟨_, d, hadd, rfl⟩ := generate_eq_ok namespaceName f c h
  have hmethods : f.scenarios.map scenarioMethod = f.scenarios.map shapedMethod :=
    List.map_congr_left fun s _ => scenarioMethod_shape s
  rw [addScenarios_ok _ _ _ hadd, beginDraft_shape, hmethods]
  by_cases hscenarios : f.scenarios = []
  · simp only [featureClass, if_pos hscenarios]
    rfl
  · simp only [featureClass, if_neg hscenarios]
    rfl

end CrossBrowser.Generation
