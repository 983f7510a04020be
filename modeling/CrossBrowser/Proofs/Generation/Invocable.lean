import CrossBrowser.Proofs.Feature.Validity
import CrossBrowser.Proofs.Generation.Methods
import CrossBrowser.Proofs.Naming.Parameters
import Mathlib.Data.List.Forall2

/-! Methods that can be run with the cases they have.

A method takes a browser if its scenario targets any, then the cells of a row, then the tags of the
row. The cases come from elsewhere: from the categories, and from the rows. They pass one argument
for each parameter, of its type, unless the scenario has a table of examples without any rows: such a
table makes parameters and no arguments for them. -/
namespace CrossBrowser

/-- Whether a parameter takes a literal: a text goes to a parameter of type `string`, and the tags of
a row, or `null` if there are none, to the parameter for them. -/
def Parameter.Takes (p : Parameter) : Literal → Prop
  | .text _ => p.type = "string"
  | .null => p.type = "string[]" ∧ p.name = Generation.tagsParameter
  | .texts values =>
    p.type = "string[]" ∧ p.name = Generation.tagsParameter ∧ values ≠ []

/-- A method that can be run: it has cases if it takes arguments, and each case passes what the
parameters take, one argument for each. -/
structure TestMethod.Invocable (m : TestMethod) : Prop where
  covered : m.parameters ≠ [] → m.cases ≠ []
  fits : ∀ c ∈ m.cases, List.Forall₂ Parameter.Takes m.parameters c.arguments

namespace Generation
open RemoteBrowser

/-! ### What the parameters take -/

/-- The parameter that takes the browser. -/
def browserParameterOf : Parameter := ⟨"string", browserParameter, none⟩

theorem length_columnNames (t : ExampleTable) : t.columnNames.length = t.width := by
  unfold ExampleTable.columnNames ExampleTable.width
  split
  · rw [List.length_map, List.length_range]
  · rfl

theorem takes_tags (tags : List String) :
    Parameter.Takes ⟨"string[]", tagsParameter, none⟩ (RowArguments.tagsLiteral tags) := by
  unfold RowArguments.tagsLiteral
  split
  · exact ⟨rfl, rfl⟩
  · next h => exact ⟨rfl, rfl, h⟩

theorem takes_cells (names cells : List String) (h : cells.length = names.length) :
    List.Forall₂ Parameter.Takes (names.map (⟨"string", ·, none⟩)) (cells.map .text) := by
  induction names generalizing cells with
  | nil =>
    rw [List.length_eq_zero_iff.mp h]
    exact .nil
  | cons name rest ih =>
    cases cells with
    | nil => cases h
    | cons cell cells => exact .cons rfl (ih cells (Nat.succ.inj h))

/-- The parameters for a table take the arguments of each row that has its width. -/
theorem takes_row (t : ExampleTable) (cells tags : List String) (h : cells.length = t.width) :
    List.Forall₂ Parameter.Takes (exampleParameters t)
      (cells.map .text ++ [RowArguments.tagsLiteral tags]) := by
  refine List.rel_append (takes_cells _ cells ?_) (.cons (takes_tags tags) .nil)
  rw [Naming.length_parameterNames, length_columnNames, h]

/-! ### The parameters of a method -/

theorem exampleParameters_not_browser (t : ExampleTable) :
    (exampleParameters t).any (·.name == browserParameter) = false := by
  refine List.any_eq_false.mpr fun p hp => ?_
  rcases List.mem_append.mp hp with hp | hp
  · obtain ⟨name, hname, rfl⟩ := List.mem_map.mp hp
    have hfree := Naming.parameterNames_not_reserved t.columnNames reservedParameters (by decide)
      name hname
    intro h
    obtain rfl : name = browserParameter := eq_of_beq h
    exact hfree List.mem_cons_self
  · rw [List.mem_singleton.mp hp]
    decide

/-- The method of a scenario takes a browser if the scenario targets any, and then what the rows of
its table pass. -/
theorem scenarioMethod_parameters (s : Scenario) :
    (scenarioMethod s).parameters =
      (if s.browsers = [] then [] else [browserParameterOf]) ++
        (s.examples.map exampleParameters).getD [] := by
  have hplain : (browsedMethod s).parameters = (s.examples.map exampleParameters).getD [] := rfl
  have hfree : (browsedMethod s).parameters.any (·.name == browserParameter) = false := by
    rw [hplain]
    cases s.examples with
    | none => rfl
    | some t => exact exampleParameters_not_browser t
  rw [scenarioMethod_eq, openedMethod_eq]
  by_cases hb : s.browsers = []
  · simp only [if_pos hb, List.nil_append]
    exact hplain
  · simp only [if_neg hb, withBrowserParameter, hfree]
    rfl

/-- The method of a scenario without a table takes the browser alone. -/
theorem parameters_of_no_table (s : Scenario) (h : s.examples = none) :
    (scenarioMethod s).parameters = if s.browsers = [] then [] else [browserParameterOf] := by
  rw [scenarioMethod_parameters, h]
  exact List.append_nil _

/-- The method of a scenario with a table takes what the rows of the table pass, after the
browser. -/
theorem parameters_of_table (s : Scenario) (t : ExampleTable) (h : s.examples = some t) :
    (scenarioMethod s).parameters =
      (if s.browsers = [] then [] else [browserParameterOf]) ++ exampleParameters t := by
  rw [scenarioMethod_parameters, h]
  rfl

theorem exampleParameters_ne_nil (t : ExampleTable) : exampleParameters t ≠ [] := by
  simp [exampleParameters]

/-! ### The cases of a method -/

theorem rows_of_no_table (s : Scenario) (h : s.examples = none) : s.rows = [] := by
  rw [Scenario.rows, h]
  rfl

theorem rows_of_table (s : Scenario) (t : ExampleTable) (h : s.examples = some t) :
    s.rows = t.rows := by
  rw [Scenario.rows, h]
  rfl

theorem cases_of_no_browsers (s : Scenario) (hb : s.browsers = []) :
    (scenarioMethod s).cases = s.rows.map (·.contribution.toCase) := by
  rw [scenarioMethod_cases, scenarioCases_eq, if_pos hb]

theorem cases_of_no_rows (s : Scenario) (hb : s.browsers ≠ []) (hrows : s.rows = []) :
    (scenarioMethod s).cases = s.browsers.map (browserAloneCase s.title) := by
  rw [scenarioMethod_cases, scenarioCases_eq, if_neg hb, if_pos hrows]

theorem cases_of_rows (s : Scenario) (hb : s.browsers ≠ []) (hrows : s.rows ≠ []) :
    (scenarioMethod s).cases = (mergedRows s.rows).flatMap (rowBlock s.title s.browsers) := by
  rw [scenarioMethod_cases, scenarioCases_eq, if_neg hb, if_neg hrows]

theorem mem_mergedRows (rows : List ExampleRow) (r : ExampleRow) (h : r ∈ mergedRows rows) :
    ∃ s ∈ rows, r.Agrees s := by
  obtain ⟨key, hkey, rfl⟩ := List.mem_map.mp h
  obtain ⟨s, hs, rfl⟩ := List.mem_map.mp ((mem_distinct _ _ _).mp hkey).1
  exact ⟨s, hs, rfl, rfl⟩

theorem mergedRows_ne_nil (rows : List ExampleRow) (h : rows ≠ []) : mergedRows rows ≠ [] := by
  obtain ⟨r, rest, rfl⟩ := List.exists_cons_of_ne_nil h
  simp [mergedRows, distinct]

/-! ### The cases fit the parameters -/

/-- The cases of a scenario without a table pass the browser and nothing else. -/
theorem invocable_of_no_table (s : Scenario) (h : s.examples = none) :
    (scenarioMethod s).Invocable := by
  have hrows := rows_of_no_table s h
  have hparameters := parameters_of_no_table s h
  by_cases hb : s.browsers = []
  · rw [if_pos hb] at hparameters
    have hcases : (scenarioMethod s).cases = [] := by
      rw [cases_of_no_browsers s hb, hrows, List.map_nil]
    refine ⟨fun hne => absurd hparameters hne, fun c hc => ?_⟩
    rw [hcases] at hc
    cases hc
  · rw [if_neg hb] at hparameters
    have hcases := cases_of_no_rows s hb hrows
    refine ⟨fun _ => ?_, fun c hc => ?_⟩
    · rw [hcases]
      exact mt List.map_eq_nil_iff.mp hb
    · rw [hcases] at hc
      obtain ⟨id, _, rfl⟩ := List.mem_map.mp hc
      rw [hparameters]
      exact .cons rfl .nil

/-- The cases of a scenario with rows pass the browser, if there is one, and what a row gives. -/
theorem invocable_of_rows (s : Scenario) (t : ExampleTable) (h : s.examples = some t)
    (hne : t.rows ≠ []) (hvalid : Feature.TableValid t) : (scenarioMethod s).Invocable := by
  have hrows := rows_of_table s t h
  have hparameters := parameters_of_table s t h
  by_cases hb : s.browsers = []
  · rw [if_pos hb, List.nil_append] at hparameters
    have hcases := cases_of_no_browsers s hb
    rw [hrows] at hcases
    refine ⟨fun _ => ?_, fun c hc => ?_⟩
    · rw [hcases]
      exact mt List.map_eq_nil_iff.mp hne
    · rw [hcases] at hc
      obtain ⟨r, hr, rfl⟩ := List.mem_map.mp hc
      rw [hparameters]
      exact takes_row t r.cells r.tags (hvalid r hr)
  · rw [if_neg hb, List.singleton_append] at hparameters
    have hcases := cases_of_rows s hb (hrows ▸ hne)
    rw [hrows] at hcases
    refine ⟨fun _ => ?_, fun c hc => ?_⟩
    · rw [hcases]
      obtain ⟨r, rest, hr⟩ := List.exists_cons_of_ne_nil (mergedRows_ne_nil t.rows hne)
      obtain ⟨id, ids, hid⟩ := List.exists_cons_of_ne_nil hb
      simp [hr, hid, rowBlock]
    · rw [hcases] at hc
      obtain ⟨r, hr, hc⟩ := List.mem_flatMap.mp hc
      obtain ⟨id, _, rfl⟩ := List.mem_map.mp hc
      obtain ⟨row, hrow, hcells, _⟩ := mem_mergedRows t.rows r hr
      have hwidth : r.cells.length = t.width := by
        rw [hcells]
        exact hvalid row hrow
      rw [hparameters]
      exact .cons rfl (takes_row t r.cells r.tags hwidth)

/-- A table without rows makes parameters and no arguments for them. -/
theorem not_invocable_of_no_rows (s : Scenario) (t : ExampleTable) (h : s.examples = some t)
    (hrows : t.rows = []) : ¬(scenarioMethod s).Invocable := by
  have hnone : s.rows = [] := (rows_of_table s t h).trans hrows
  have hparameters := parameters_of_table s t h
  intro hinv
  by_cases hb : s.browsers = []
  · rw [if_pos hb, List.nil_append] at hparameters
    refine hinv.covered ?_ ?_
    · rw [hparameters]
      exact exampleParameters_ne_nil t
    · rw [cases_of_no_browsers s hb, hnone, List.map_nil]
  · rw [if_neg hb, List.singleton_append] at hparameters
    obtain ⟨id, ids, hid⟩ := List.exists_cons_of_ne_nil hb
    have hcase : browserAloneCase s.title id ∈ (scenarioMethod s).cases := by
      rw [cases_of_no_rows s hb hnone, hid]
      exact List.mem_cons_self
    -- The case passes the browser, and the table has parameters after it.
    have hlength := (hinv.fits _ hcase).length_eq
    rw [hparameters, List.length_cons] at hlength
    exact exampleParameters_ne_nil t (List.length_eq_zero_iff.mp (Nat.succ.inj hlength))

/-- **Which methods can be run.** The class of a feature has one method for each scenario, in order,
and a method can be run exactly if its scenario has no table of examples or one with rows. -/
theorem generate_invocable (namespaceName : String) (f : Feature) (c : TestClass)
    (h : generate namespaceName f = .ok c) :
    List.Forall₂ (fun s m => m.Invocable ↔ ∀ t, s.examples = some t → t.rows ≠ [])
      f.scenarios c.methods := by
  obtain ⟨hfault, hmethods⟩ := generate_ok namespaceName f c h
  have hvalid := f.fault?_eq_none_iff.mp hfault
  rw [hmethods, List.forall₂_map_right_iff, List.forall₂_same]
  intro s hs
  cases ht : s.examples with
  | none => exact iff_of_true (invocable_of_no_table s ht) fun t h => by cases h
  | some t =>
    constructor
    · intro hinv t' ht' hrows
      exact not_invocable_of_no_rows s t' (ht.trans ht') hrows hinv
    · exact fun hrows => invocable_of_rows s t ht (hrows t rfl) ((hvalid.2 s hs).2 t ht)

theorem generate_invocable_search :
    ∃ c, generate "Pages" searchFeature = .ok c ∧
      List.Forall₂ (fun s m => m.Invocable ↔ ∀ t, s.examples = some t → t.rows ≠ [])
        searchFeature.scenarios c.methods := by
  obtain ⟨c, h⟩ : ∃ c, generate "Pages" searchFeature = .ok c := exists_ok (by decide +kernel)
  exact ⟨c, h, generate_invocable "Pages" searchFeature c h⟩

/-- A feature with a table of examples that has a column and no rows. -/
def rowlessFeature : Feature :=
  { title := "Search"
    description := none
    tags := []
    scenarios :=
      [{ title := "Find a page"
         tags := ["browser:chrome"]
         examples := some { columns := ["term"], rows := [] } }] }

/-- A class can be generated and have a method that cannot be run. -/
theorem rowless_not_invocable :
    ∃ c, generate "Pages" rowlessFeature = .ok c ∧ ∃ m ∈ c.methods, ¬m.Invocable := by
  obtain ⟨c, h⟩ : ∃ c, generate "Pages" rowlessFeature = .ok c := exists_ok (by decide +kernel)
  refine ⟨c, h, ?_⟩
  rw [(generate_ok _ _ _ h).2]
  exact ⟨_, List.mem_map_of_mem List.mem_cons_self, not_invocable_of_no_rows _ _ rfl rfl⟩

end Generation
end CrossBrowser
