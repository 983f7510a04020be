import CrossBrowser.Generation
import CrossBrowser.Proofs.Expansion.Fanout
import CrossBrowser.Proofs.TestMethod.Run

/-! The methods of a generated class.

The class that is generated for a feature has one method for each scenario, in order, and what a
method is depends on its scenario alone (`scenarioMethod`): the draft only collects the methods, and
refuses a scenario whose method name is taken. -/
namespace CrossBrowser

/-- The browsers that a scenario targets, each where its categories first name it. -/
def Scenario.browsers (s : Scenario) : List String := distinct [] (classify s.tags).browsers

theorem Scenario.browsers_nodup (s : Scenario) : s.browsers.Nodup := distinct_nodup _ _

theorem hasBrowsers_iff (s : Scenario) :
    (classify s.tags).hasBrowsers = true ↔ s.browsers ≠ [] := by
  unfold Classified.hasBrowsers Scenario.browsers
  cases (classify s.tags).browsers with
  | nil => simp [distinct]
  | cons id rest => simp [distinct]

namespace Generation
open RemoteBrowser

/-! ### A method before its rows -/

/-- The method of a scenario when its categories have been taken in. -/
def openedMethod (s : Scenario) : TestMethod :=
  methodCategories (addScenario (beginMethod (.named (Naming.methodName s.title)) s.title) s) s.tags

/-- The method of a scenario. -/
def scenarioMethod (s : Scenario) : TestMethod :=
  s.rows.foldl (fun method r => method.setRow r.cells r.tags r.ignored) (openedMethod s)

/-- The method of a scenario with the cases and notes of the browsers it targets, before the browser
has become a parameter. -/
def browsedMethod (s : Scenario) : TestMethod :=
  { addScenario (beginMethod (.named (Naming.methodName s.title)) s.title) s with
    categories := (classify s.tags).plain
    cases := s.browsers.map (browserAloneCase s.title)
    metadata := .ofBrowsers s.browsers }

theorem openedMethod_eq (s : Scenario) :
    openedMethod s =
      if s.browsers = [] then browsedMethod s
      else withBrowserAssigned (withBrowserParameter (browsedMethod s)) := by
  have h : openedMethod s =
      if (classify s.tags).hasBrowsers then
        withBrowserAssigned (withBrowserParameter (browsedMethod s))
      else browsedMethod s := by
    simp only [openedMethod, methodCategories]
    rw [TestMethod.foldl_addBrowser_alone _ _ rfl rfl]
    rfl
  rw [h]
  by_cases hb : s.browsers = []
  · rw [if_pos hb, if_neg fun hh => (hasBrowsers_iff s).mp hh hb]
  · rw [if_neg hb, if_pos ((hasBrowsers_iff s).mpr hb)]

/-- Whether or not the browser has become a parameter, only the parameters and the statements
tell. -/
theorem openedMethod_frame (s : Scenario) :
    ∃ parameters statements, openedMethod s = { browsedMethod s with parameters, statements } := by
  rw [openedMethod_eq]
  by_cases hb : s.browsers = []
  · rw [if_pos hb]
    exact ⟨_, _, rfl⟩
  · rw [if_neg hb]
    exact ⟨_, _, TestMethod.withBrowser_eq _⟩

theorem openedMethod_cases (s : Scenario) :
    (openedMethod s).cases = s.browsers.map (browserAloneCase s.title) := by
  obtain ⟨_, _, h⟩ := openedMethod_frame s
  rw [h]
  rfl

theorem openedMethod_metadata (s : Scenario) :
    (openedMethod s).metadata = .ofBrowsers s.browsers := by
  obtain ⟨_, _, h⟩ := openedMethod_frame s
  rw [h]
  rfl

theorem openedMethod_title (s : Scenario) : (openedMethod s).title = s.title := by
  obtain ⟨_, _, h⟩ := openedMethod_frame s
  rw [h]
  rfl

theorem openedMethod_identifier (s : Scenario) :
    (openedMethod s).identifier = Naming.methodName s.title := by
  obtain ⟨_, _, h⟩ := openedMethod_frame s
  rw [h]
  rfl

/-! ### The method of a scenario -/

/-- The cases a scenario is to have: one for each row without browsers, one for each browser without
rows, and otherwise one for each row and browser, rows that pass the same arguments being merged. -/
def scenarioCases (s : Scenario) : List TestCase :=
  if s.browsers = [] then
    s.rows.map fun r =>
      { arguments := r.cells.map .text ++ [RowArguments.tagsLiteral r.tags]
        ignoreReason := if r.ignored then some ignoredRowReason else none
        category := none
        name := none
        origin := .row }
  else if s.rows = [] then
    s.browsers.map fun id =>
      { arguments := [.text id]
        ignoreReason := none
        category := some (browserLabel id)
        name := some (s.title ++ " on " ++ browserLabel id)
        origin := .browser }
  else
    (mergedRows s.rows).flatMap fun r => s.browsers.map fun id =>
      { arguments := .text id :: (r.cells.map .text ++ [RowArguments.tagsLiteral r.tags])
        ignoreReason := if r.ignored then some ignoredRowReason else none
        category := some (browserLabel id)
        name := some (rowCaseName s.title (browserLabel id) r.cells)
        origin := .browserRow }

theorem scenarioCases_eq (s : Scenario) :
    scenarioCases s =
      if s.browsers = [] then s.rows.map (·.contribution.toCase)
      else if s.rows = [] then s.browsers.map (browserAloneCase s.title)
      else (mergedRows s.rows).flatMap (rowBlock s.title s.browsers) := rfl

/-- The rows of a scenario change nothing but the cases of its method. -/
theorem scenarioMethod_eq (s : Scenario) :
    scenarioMethod s = { openedMethod s with cases := scenarioCases s } := by
  rw [scenarioMethod, scenarioCases_eq]
  by_cases hb : s.browsers = []
  · have hnotes : (openedMethod s).metadata.browsers = [] := by
      rw [openedMethod_metadata, Metadata.browsers_ofBrowsers, hb]
    rw [TestMethod.foldl_setRow_plain _ _ hnotes, openedMethod_cases, if_pos hb, hb, List.map_nil,
      List.nil_append]
  · rw [if_neg hb]
    by_cases hrows : s.rows = []
    · rw [if_pos hrows, hrows, ← openedMethod_cases]
      rfl
    · have halone : (openedMethod s).cases.filter (·.origin ≠ .browser) = [] := by
        rw [openedMethod_cases]
        refine List.filter_eq_nil_iff.mpr fun c hc => ?_
        obtain ⟨id, _, rfl⟩ := List.mem_map.mp hc
        simp [browserAloneCase, browserCase]
      rw [if_neg hrows, TestMethod.foldl_setRow_browsers _ _ hb s.browsers_nodup
        (openedMethod_metadata s) halone s.rows hrows, openedMethod_title]

theorem scenarioMethod_cases (s : Scenario) : (scenarioMethod s).cases = scenarioCases s := by
  rw [scenarioMethod_eq]

theorem scenarioMethod_identifier (s : Scenario) :
    (scenarioMethod s).identifier = Naming.methodName s.title := by
  rw [scenarioMethod_eq]
  exact openedMethod_identifier s

/-! ### The class -/

theorem takeRows_provider (d : Draft) (method : TestMethod) (rows : List ExampleRow) :
    takeRows (m := Id) provider d method rows =
      (d, rows.foldl (fun method r => method.setRow r.cells r.tags r.ignored) method) := by
  induction rows generalizing method with
  | nil => rfl
  | cons r rest ih => exact ih _

theorem makeMethod_provider (d : Draft) (s : Scenario) :
    makeMethod (m := Id) provider d s = (readyScenario d, scenarioMethod s) :=
  takeRows_provider _ _ _

theorem methods_readyScenario (d : Draft) :
    (readyScenario d).testClass.methods = d.testClass.methods := by
  unfold readyScenario
  split <;> rfl

theorem readyScenario_of_ready (d : Draft) (h : d.scenarioReady = true) : readyScenario d = d := by
  rw [readyScenario, if_pos h]

theorem scenarioReady_readyScenario (d : Draft) : (readyScenario d).scenarioReady = true := by
  unfold readyScenario
  split
  · assumption
  · rfl

/-- Scenarios that are not refused add their methods, in order, and the first one has a session
started at the beginning of each. -/
theorem addScenarios_ok (ss : List Scenario) (d d' : Draft)
    (h : addScenarios (m := Id) provider d ss = Except.ok d') :
    d' = { (if ss = [] then d else readyScenario d) with
      testClass.methods := d.testClass.methods ++ ss.map scenarioMethod } := by
  induction ss generalizing d with
  | nil =>
    obtain rfl := Except.ok.inj h
    rw [if_pos rfl, List.map_nil, List.append_nil]
  | cons s rest ih =>
    by_cases htaken : (d.testClass.method? (Naming.methodName s.title)).isSome
    · rw [addScenarios, if_pos htaken] at h
      cases h
    · rw [addScenarios, if_neg htaken, makeMethod_provider] at h
      have hready : readyScenario ((readyScenario d).addMethod (scenarioMethod s)) =
          (readyScenario d).addMethod (scenarioMethod s) :=
        readyScenario_of_ready _ (scenarioReady_readyScenario d)
      rw [ih _ h, hready, ite_self, if_neg (List.cons_ne_nil _ _), Draft.addMethod,
        methods_readyScenario, List.append_assoc, List.singleton_append, List.map_cons]

theorem methods_beginDraft (namespaceName : String) (f : Feature) :
    (beginDraft (m := Id) provider namespaceName f : Draft).testClass.methods = [] := by
  by_cases h : f.tags = []
  · simp only [beginDraft, if_pos h]
    rfl
  · simp only [beginDraft, if_neg h]
    rfl

/-- A class is generated for valid features only, by ending the draft with all scenarios added. -/
theorem generate_eq_ok (namespaceName : String) (f : Feature) (c : TestClass)
    (h : generate namespaceName f = .ok c) :
    f.fault? = none ∧ ∃ d : Draft,
      addScenarios (m := Id) provider (beginDraft (m := Id) provider namespaceName f) f.scenarios =
        Except.ok d ∧ c = (endClass d).testClass := by
  unfold generate generateWith at h
  cases hfault : f.fault? with
  | some fault =>
    rw [hfault] at h
    cases h
  | none =>
    rw [hfault] at h
    cases hadd : addScenarios (m := Id) provider (beginDraft (m := Id) provider namespaceName f)
        f.scenarios with
    | error fault =>
      simp only [hadd, bind, Id.run] at h
      cases h
    | ok d =>
      simp only [hadd, bind, Id.run] at h
      obtain rfl := Except.ok.inj h
      exact ⟨rfl, d, rfl, rfl⟩

/-- A class is generated for valid features only, and has the methods of the scenarios. -/
theorem generate_ok (namespaceName : String) (f : Feature) (c : TestClass)
    (h : generate namespaceName f = .ok c) :
    f.fault? = none ∧ c.methods = f.scenarios.map scenarioMethod := by
  obtain ⟨hfault, d, hadd, rfl⟩ := generate_eq_ok namespaceName f c h
  refine ⟨hfault, ?_⟩
  rw [addScenarios_ok _ _ _ hadd, methods_beginDraft]
  rfl

/-- **The cases of a class.** The class of a feature has one method for each scenario, in order, and
the cases of a method are those its scenario is to have. -/
theorem generate_cases (namespaceName : String) (f : Feature) (c : TestClass)
    (h : generate namespaceName f = .ok c) :
    c.methods.map (fun m => (m.identifier, m.cases)) =
      f.scenarios.map fun s => (Naming.methodName s.title, scenarioCases s) := by
  obtain ⟨_, hmethods⟩ := generate_ok namespaceName f c h
  rw [hmethods, List.map_map]
  refine List.map_congr_left fun s _ => ?_
  rw [Function.comp_apply, scenarioMethod_identifier, scenarioMethod_cases]

theorem exists_ok {ε α : Type} {x : Except ε α} (h : x.isOk = true) : ∃ a, x = .ok a := by
  cases x with
  | error e => cases h
  | ok a => exact ⟨a, rfl⟩

/-- A feature with browsers and rows that repeat, with rows alone, and with browsers alone. -/
def searchFeature : Feature :=
  { title := "Search"
    description := none
    tags := []
    scenarios :=
      [{ title := "Find a page"
         tags := ["browser:chrome", "smoke", "browser:firefox,40", "browser:chrome"]
         examples := some
          { columns := ["term"]
            rows := [⟨["a"], ["x"], false⟩, ⟨["b"], [], false⟩, ⟨["a"], ["x"], true⟩] } },
       { title := "Find an image"
         tags := []
         examples := some { columns := [], rows := [⟨["a"], [], false⟩, ⟨["a"], [], true⟩] } },
       { title := "Open the front page", tags := ["browser:", "browser:safari"], examples := none }] }

theorem generate_cases_search :
    ∃ c, generate "Pages" searchFeature = .ok c ∧
      c.methods.map (fun m => (m.identifier, m.cases)) =
        searchFeature.scenarios.map fun s => (Naming.methodName s.title, scenarioCases s) := by
  obtain ⟨c, h⟩ : ∃ c, generate "Pages" searchFeature = .ok c := exists_ok (by decide +kernel)
  exact ⟨c, h, generate_cases "Pages" searchFeature c h⟩

end Generation
end CrossBrowser
