import CrossBrowser.Proofs.Feature.Faults
import CrossBrowser.Proofs.Provider.Calls

/-! Which features a class is generated for, and what is reported of the others.

The methods of a class must have different names, and that is looked at last, when nothing else is
wrong. So the faults of a feature are those of its form, and after them those of scenarios that lead
to the name of an earlier one (`faults`). Generating fails with the first of them, and succeeds if
there are none (`generate_decides`). -/
namespace CrossBrowser.Generation
open RemoteBrowser

/-! ### Names that are taken -/

/-- The faults of the scenarios whose method name is taken, by an earlier scenario if not to begin
with, in order. -/
def nameFaults (taken : List String) (ss : List Scenario) : List FeatureFault :=
  ss.zipIdx.filterMap fun (s, index) =>
    if Naming.methodName s.title ∈ taken ++ methodNames (ss.take index) then
      some (.methodNameTaken s.title (Naming.methodName s.title))
    else none

theorem nameFaults_cons (taken : List String) (s : Scenario) (rest : List Scenario) :
    nameFaults taken (s :: rest) =
      (if Naming.methodName s.title ∈ taken then
        [.methodNameTaken s.title (Naming.methodName s.title)] else []) ++
        nameFaults (taken ++ [Naming.methodName s.title]) rest := by
  have hrest : ((rest.zipIdx 1).filterMap fun (s', index) =>
      if Naming.methodName s'.title ∈ taken ++ methodNames ((s :: rest).take index) then
        some (FeatureFault.methodNameTaken s'.title (Naming.methodName s'.title))
      else none) = nameFaults (taken ++ [Naming.methodName s.title]) rest := by
    rw [List.zipIdx_succ, List.filterMap_map]
    simp [nameFaults, methodNames]
  rw [← hrest]
  by_cases h : Naming.methodName s.title ∈ taken <;> simp [nameFaults, methodNames, h]

/-- No name is taken exactly if the names differ from each other and from those taken to begin
with. -/
theorem nameFaults_eq_nil_iff (taken : List String) (ss : List Scenario) :
    nameFaults taken ss = [] ↔
      (methodNames ss).Nodup ∧ ∀ name ∈ methodNames ss, name ∉ taken := by
  induction ss generalizing taken with
  | nil => simp [nameFaults, methodNames]
  | cons s rest ih =>
    rw [nameFaults_cons, List.append_eq_nil_iff, ih]
    simp only [methodNames, List.map_cons, List.nodup_cons, List.forall_mem_cons,
      List.mem_append, List.mem_singleton, not_or, ite_eq_right_iff, List.cons_ne_nil, imp_false]
    constructor
    · rintro ⟨hfree, hnodup, hrest⟩
      exact ⟨⟨fun hmem => (hrest _ hmem).2 rfl, hnodup⟩, hfree, fun name h => (hrest name h).1⟩
    · rintro ⟨⟨hnew, hnodup⟩, hfree, hrest⟩
      exact ⟨hfree, hnodup, fun name h => ⟨hrest name h, fun he => hnew (he ▸ h)⟩⟩

/-! ### Adding the scenarios -/

theorem identifiers_made (d : Draft) (s : Scenario) :
    ((readyScenario d).addMethod (scenarioMethod s)).identifiers =
      d.identifiers ++ [Naming.methodName s.title] := by
  rw [identifiers_addMethod, Draft.identifiers, methods_readyScenario, scenarioMethod_identifier]
  rfl

/-- Scenarios are refused for the first one whose name is taken. -/
theorem addScenarios_eq_error_iff (ss : List Scenario) (d : Draft) (fault : FeatureFault) :
    addScenarios (m := Id) provider d ss = Except.error fault ↔
      (nameFaults d.identifiers ss).head? = some fault := by
  induction ss generalizing d with
  | nil =>
    constructor
    · intro h
      cases h
    · intro h
      cases h
  | cons s rest ih =>
    rw [nameFaults_cons]
    by_cases htaken : Naming.methodName s.title ∈ d.identifiers
    · rw [addScenarios_taken (m := Id) provider d s rest htaken, if_pos htaken]
      show Except.error _ = Except.error fault ↔ some _ = some fault
      rw [Except.error.injEq, Option.some.injEq]
    · rw [addScenarios_free (m := Id) provider d s rest htaken, if_neg htaken,
        makeMethod_provider, List.nil_append, ← identifiers_made]
      exact ih _

/-! ### Generating -/

/-- The faults of a feature, in the order in which they are looked for. -/
def faults (f : Feature) : List FeatureFault := f.faults ++ nameFaults [] f.scenarios

theorem generate_of_fault (namespaceName : String) (f : Feature) (fault : FeatureFault)
    (h : f.fault? = some fault) : generate namespaceName f = .error fault :=
  generateWith_of_fault (m := Id) provider namespaceName f fault h

theorem generate_of_valid (namespaceName : String) (f : Feature) (h : f.fault? = none) :
    generate namespaceName f =
      Except.map (fun d => (endClass d).testClass)
        (addScenarios (m := Id) provider (beginDraft (m := Id) provider namespaceName f)
          f.scenarios) := by
  rw [generate, generateWith_of_valid (m := Id) provider namespaceName f h]
  show finish (m := Id) provider (addScenarios (m := Id) provider _ f.scenarios) = _
  cases addScenarios (m := Id) provider (beginDraft (m := Id) provider namespaceName f)
    f.scenarios <;> rfl

/-- Generating fails with the first fault of the feature. -/
theorem generate_eq_error_iff (namespaceName : String) (f : Feature) (fault : FeatureFault) :
    generate namespaceName f = .error fault ↔ (faults f).head? = some fault := by
  rw [faults, List.head?_append, ← f.fault?_eq_head?]
  cases hfault : f.fault? with
  | some found =>
    rw [generate_of_fault namespaceName f found hfault]
    simp
  | none =>
    have hbegun : (beginDraft (m := Id) provider namespaceName f : Draft).identifiers = [] := by
      rw [Draft.identifiers, methods_beginDraft, List.map_nil]
    have hscenarios := addScenarios_eq_error_iff f.scenarios
      (beginDraft (m := Id) provider namespaceName f) fault
    rw [hbegun] at hscenarios
    rw [generate_of_valid namespaceName f hfault, Option.none_or, ← hscenarios]
    cases addScenarios (m := Id) provider (beginDraft (m := Id) provider namespaceName f)
      f.scenarios with
    | ok d => simp [Except.map]
    | error found =>
      show Except.error found = Except.error fault ↔ Except.error found = Except.error fault
      rw [Except.error.injEq, Except.error.injEq]

/-- A class is generated for the features without faults. -/
theorem exists_generate_iff (namespaceName : String) (f : Feature) :
    (∃ c, generate namespaceName f = .ok c) ↔ f.Valid ∧ (methodNames f.scenarios).Nodup := by
  have hfaults : faults f = [] ↔ f.Valid ∧ (methodNames f.scenarios).Nodup := by
    rw [faults, List.append_eq_nil_iff, nameFaults_eq_nil_iff, ← f.fault?_eq_none_iff,
      f.fault?_eq_head?, List.head?_eq_none_iff]
    simp
  rw [← hfaults, ← List.head?_eq_none_iff, Option.eq_none_iff_forall_ne_some]
  cases hgenerate : generate namespaceName f with
  | ok c => simp [← generate_eq_error_iff namespaceName, hgenerate]
  | error fault => simp [← generate_eq_error_iff namespaceName, hgenerate]

/-- What a feature must be like for a class to be generated. -/
structure Accepted (f : Feature) : Prop where
  titled : Text.isBlankText f.title = false
  scenariosTitled : ∀ s ∈ f.scenarios, Text.isBlankText s.title = false
  /-- Each row has a cell for each column. -/
  columnsFilled : ∀ s ∈ f.scenarios, ∀ t, s.examples = some t → t.columns ≠ [] →
    ∀ row ∈ t.rows, row.cells.length = t.columns.length
  /-- Without columns each row has as many cells as the first one. -/
  rowsAlike : ∀ s ∈ f.scenarios, ∀ t, s.examples = some t → t.columns = [] →
    ∀ first, t.rows.head? = some first → ∀ row ∈ t.rows, row.cells.length = first.cells.length
  namesDistinct : (f.scenarios.map fun s => Naming.methodName s.title).Nodup

theorem tableValid_iff (t : ExampleTable) :
    Feature.TableValid t ↔
      (t.columns ≠ [] → ∀ row ∈ t.rows, row.cells.length = t.columns.length) ∧
        (t.columns = [] → ∀ first, t.rows.head? = some first →
          ∀ row ∈ t.rows, row.cells.length = first.cells.length) := by
  unfold Feature.TableValid ExampleTable.width ExampleTable.firstWidth
  by_cases hcolumns : t.columns = []
  · cases t.rows <;> simp [hcolumns]
  · simp [hcolumns]

theorem accepted_iff (f : Feature) :
    Accepted f ↔ f.Valid ∧ (methodNames f.scenarios).Nodup := by
  constructor
  · intro h
    refine ⟨⟨h.titled, fun s hs => ⟨h.scenariosTitled s hs, fun t ht => ?_⟩⟩, h.namesDistinct⟩
    exact (tableValid_iff t).mpr ⟨h.columnsFilled s hs t ht, h.rowsAlike s hs t ht⟩
  · rintro ⟨⟨htitle, hscenarios⟩, hnodup⟩
    have htables := fun s hs t ht => (tableValid_iff t).mp ((hscenarios s hs).2 t ht)
    exact
      { titled := htitle
        scenariosTitled := fun s hs => (hscenarios s hs).1
        columnsFilled := fun s hs t ht => (htables s hs t ht).1
        rowsAlike := fun s hs t ht => (htables s hs t ht).2
        namesDistinct := hnodup }

/-- **Which features are accepted.** A class is generated for a feature exactly if its titles say
something, its rows are as wide as they must be and its scenarios lead to different method names.
Otherwise generating fails with the first fault: the title of the feature, then scenario by scenario
the title and the rows in order, and last the first scenario whose method name is taken. -/
theorem generate_decides (namespaceName : String) (f : Feature) :
    ((∃ c, generate namespaceName f = .ok c) ↔ Accepted f) ∧
      ∀ fault, generate namespaceName f = .error fault ↔ (faults f).head? = some fault :=
  ⟨(exists_generate_iff namespaceName f).trans (accepted_iff f).symm,
    generate_eq_error_iff namespaceName f⟩

end CrossBrowser.Generation
