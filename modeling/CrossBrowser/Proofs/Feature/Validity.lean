import CrossBrowser.Feature.Validity

/-! A feature is valid exactly if nothing is found wrong with it. -/
namespace CrossBrowser

theorem oddRow?_eq_none_iff (width index : Nat) (rows : List ExampleRow) :
    oddRow? width index rows = none ↔ ∀ row ∈ rows, row.cells.length = width := by
  induction rows generalizing index with
  | nil => simp [oddRow?]
  | cons row rest ih =>
    unfold oddRow?
    by_cases h : row.cells.length = width
    · rw [if_pos h, ih]
      simp [h]
    · simp [h]

theorem ExampleTable.fault?_eq_none_iff (t : ExampleTable) (scenario : String) :
    t.fault? scenario = none ↔ Feature.TableValid t := by
  rw [fault?, Option.map_eq_none_iff, oddRow?_eq_none_iff]
  rfl

theorem Scenario.fault?_eq_none_iff (s : Scenario) (feature : String) :
    s.fault? feature = none ↔ Feature.ScenarioValid s := by
  unfold fault? Feature.ScenarioValid
  by_cases h : Text.isBlankText s.title = true
  · simp [h]
  · rw [if_neg h, Option.bind_eq_none_iff]
    simp only [ExampleTable.fault?_eq_none_iff, Bool.eq_false_iff.mpr h, true_and]

/-- Nothing is found wrong with a feature exactly if it is valid. -/
theorem Feature.fault?_eq_none_iff (f : Feature) : f.fault? = none ↔ f.Valid := by
  unfold fault? Valid
  by_cases h : Text.isBlankText f.title = true
  · simp [h]
  · rw [if_neg h, List.findSome?_eq_none_iff]
    simp only [Scenario.fault?_eq_none_iff, Bool.eq_false_iff.mpr h, true_and]

end CrossBrowser
