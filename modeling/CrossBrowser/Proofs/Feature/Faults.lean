import CrossBrowser.Proofs.Feature.Validity

/-! Everything that is wrong with a feature.

A check of a feature stops at the first fault. Here all of them are listed, those of a table row by
row and those of a feature scenario by scenario, and what the check finds is the head of the list
(`Feature.fault?_eq_head?`). -/
namespace CrossBrowser

namespace ExampleTable

/-- The fault of a row, counted from one, that has not the width of its table. -/
def rowFault (t : ExampleTable) (scenario : String) (number cells : Nat) : FeatureFault :=
  if t.columns = [] then .rowAgainstFirst number scenario cells t.firstWidth
  else .rowAgainstColumns number scenario cells t.columns.length

/-- The faults of the rows of a table, in the order of the rows. -/
def faults (t : ExampleTable) (scenario : String) : List FeatureFault :=
  (t.rows.zipIdx 1).filterMap fun (row, number) =>
    if row.cells.length = t.width then none
    else some (t.rowFault scenario number row.cells.length)

end ExampleTable

/-- The faults of a scenario of the feature with this title: that of its own title, and those of its
rows. -/
def Scenario.faults (s : Scenario) (feature : String) : List FeatureFault :=
  (if Text.isBlankText s.title then [.blankScenarioTitle feature] else []) ++
    (s.examples.map (·.faults s.title)).getD []

/-- The faults of a feature, the names of its methods left aside: that of its own title, and those
of its scenarios, in order. -/
def Feature.faults (f : Feature) : List FeatureFault :=
  (if Text.isBlankText f.title then [.blankTitle] else []) ++
    f.scenarios.flatMap (·.faults f.title)

/-- The odd row that is found is the first of all odd rows. -/
theorem oddRow?_map (width : Nat) (fault : Nat → Nat → FeatureFault) (index : Nat)
    (rows : List ExampleRow) :
    (oddRow? width index rows).map (fun (number, cells) => fault number cells) =
      ((rows.zipIdx index).filterMap fun (row, number) =>
        if row.cells.length = width then none else some (fault number row.cells.length)).head? := by
  induction rows generalizing index with
  | nil => rfl
  | cons row rest ih =>
    unfold oddRow?
    by_cases h : row.cells.length = width
    · rw [if_pos h, ih]
      simp [h]
    · simp [h]

theorem ExampleTable.fault?_eq_head? (t : ExampleTable) (scenario : String) :
    t.fault? scenario = (t.faults scenario).head? := by
  have hfault : (fun (number, cells) =>
      if t.columns = [] then FeatureFault.rowAgainstFirst number scenario cells t.width
      else .rowAgainstColumns number scenario cells t.width) =
        fun (number, cells) => t.rowFault scenario number cells := by
    funext ⟨number, cells⟩
    unfold rowFault width
    by_cases h : t.columns = [] <;> simp [h]
  rw [fault?, faults, hfault, oddRow?_map]

theorem Scenario.fault?_eq_head? (s : Scenario) (feature : String) :
    s.fault? feature = (s.faults feature).head? := by
  unfold fault? faults
  by_cases h : Text.isBlankText s.title = true
  · simp [h]
  · cases ht : s.examples with
    | none => simp [h]
    | some t => simp [h, t.fault?_eq_head?]

/-- The fault that is found with a feature is the first of all its faults. -/
theorem Feature.fault?_eq_head? (f : Feature) : f.fault? = f.faults.head? := by
  unfold fault? faults
  by_cases h : Text.isBlankText f.title = true
  · simp [h]
  · simp [h, List.head?_flatMap, Scenario.fault?_eq_head?]

end CrossBrowser
