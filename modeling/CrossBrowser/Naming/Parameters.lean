import CrossBrowser.Naming.Identifier

/-! Distinct names for the parameters of one method.

A column whose name is taken gets the first free number appended. Reserved words are escaped last,
so the names differ before escaping already. -/
namespace CrossBrowser.Naming

/-- The names to try for a column: its own, then with 1, 2, … up to `count` appended. -/
def candidates (base : String) (count : Nat) : List String :=
  base :: (List.range count).map fun i => base ++ toString (i + 1)

/-- The first candidate that is not taken. One more candidate than there are taken names is
enough. -/
def firstFree (taken : List String) (base : String) : String :=
  ((candidates base taken.length).find? (· ∉ taken)).getD base

/-- Names for the columns that differ from each other and from the taken ones, before escaping. -/
def distinctNames (taken : List String) : List String → List String
  | [] => []
  | column :: rest =>
    let name := firstFree taken (parameterName column)
    name :: distinctNames (taken ++ [name]) rest

/-- The names of the parameters that take the cells of the columns, avoiding the reserved ones. -/
def parameterNames (columns reserved : List String) : List String :=
  (distinctNames reserved columns).map escape

theorem length_parameterNames (columns reserved : List String) :
    (parameterNames columns reserved).length = columns.length := by
  have : ∀ taken, (distinctNames taken columns).length = columns.length := by
    induction columns with
    | nil => intro; rfl
    | cons c rest ih => intro taken; simp [distinctNames, ih]
  simp [parameterNames, this]

end CrossBrowser.Naming
