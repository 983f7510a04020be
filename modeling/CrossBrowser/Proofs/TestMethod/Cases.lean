import CrossBrowser.Expansion.Fanout
import Mathlib.Data.List.Nodup

/-! What adding a case does to the cases of a method.

The cases of a method are two lists in one: those made from rows alone, which adding a case for a
browser leaves as they are, and those made for browsers, no two of which pass the same arguments.
The metadata is a list too, of which only the end is ever written. -/
namespace CrossBrowser

/-! ### Metadata -/

namespace Metadata

/-- The keys under which something is noted, in order. -/
def keys (m : Metadata) : List String := m.entries.map (·.1)

theorem contains_iff (m : Metadata) (key : String) : m.contains key = true ↔ key ∈ m.keys := by
  simp only [contains, keys, List.any_eq_true, beq_iff_eq, List.mem_map]

theorem insertIfAbsent_of_mem (m : Metadata) (key value : String) (h : key ∈ m.keys) :
    m.insertIfAbsent key value = m := by
  rw [insertIfAbsent, if_pos ((contains_iff m key).mpr h)]

theorem insertIfAbsent_of_not_mem (m : Metadata) (key value : String) (h : key ∉ m.keys) :
    m.insertIfAbsent key value = ⟨m.entries ++ [(key, value)]⟩ := by
  rw [insertIfAbsent, if_neg (fun hc => h ((contains_iff m key).mp hc))]

theorem insertIfAbsent_nodup (m : Metadata) (key value : String) (h : m.keys.Nodup) :
    (m.insertIfAbsent key value).keys.Nodup := by
  by_cases hk : key ∈ m.keys
  · rw [insertIfAbsent_of_mem m key value hk]
    exact h
  · rw [insertIfAbsent_of_not_mem m key value hk]
    show ((m.entries ++ [(key, value)]).map (·.1)).Nodup
    rw [List.map_append, List.map_singleton, ← List.concat_eq_append]
    exact List.Nodup.concat hk h

theorem insertIfAbsent_prefix (m : Metadata) (key value : String) :
    m.entries <+: (m.insertIfAbsent key value).entries := by
  by_cases hk : key ∈ m.keys
  · exact ⟨[], by rw [insertIfAbsent_of_mem m key value hk, List.append_nil]⟩
  · rw [insertIfAbsent_of_not_mem m key value hk]
    exact List.prefix_append ..

end Metadata

namespace TestMethod

/-! ### The two lists -/

/-- The cases made from rows alone, in order. -/
def rowCases (cases : List TestCase) : List TestCase := cases.filter (·.origin = .row)

/-- What the cases made for browsers pass to the method, in order. -/
def browserArguments (cases : List TestCase) : List (List Literal) :=
  (cases.filter (·.origin ≠ .row)).map (·.arguments)

theorem rowCases_append (xs ys : List TestCase) :
    rowCases (xs ++ ys) = rowCases xs ++ rowCases ys :=
  List.filter_append ..

theorem browserArguments_append (xs ys : List TestCase) :
    browserArguments (xs ++ ys) = browserArguments xs ++ browserArguments ys := by
  simp only [browserArguments, List.filter_append, List.map_append]

theorem browserArguments_cons_row (c : TestCase) (h : c.origin = .row) (cases : List TestCase) :
    browserArguments (c :: cases) = browserArguments cases := by
  simp [browserArguments, h]

theorem browserArguments_cons_browser (c : TestCase) (h : c.origin ≠ .row)
    (cases : List TestCase) :
    browserArguments (c :: cases) = c.arguments :: browserArguments cases := by
  simp [browserArguments, h]

theorem browserArguments_filter (p : TestCase → Bool) (cases : List TestCase) :
    (browserArguments (cases.filter p)).Sublist (browserArguments cases) :=
  (List.filter_sublist.filter _).map _

/-! ### Superseding -/

theorem supersedes_iff (new old : TestCase) :
    supersedes new old = true ↔ old.origin ≠ .row ∧ old.arguments = new.arguments := by
  simp only [supersedes, Bool.and_eq_true, bne_iff_ne, beq_iff_eq]

/-- A case for a browser goes past those it does not supersede. -/
theorem replaceOrAppend_append (new : TestCase) (before rest : List TestCase)
    (h : ∀ old ∈ before, supersedes new old = false) :
    replaceOrAppend new (before ++ rest) = before ++ replaceOrAppend new rest := by
  induction before with
  | nil => rfl
  | cons old before ih =>
    rw [List.cons_append, replaceOrAppend, h old List.mem_cons_self, if_neg Bool.false_ne_true,
      ih fun old' hold => h old' (List.mem_cons_of_mem old hold), List.cons_append]

theorem replaceOrAppend_superseding (new old : TestCase) (rest : List TestCase)
    (h : supersedes new old = true) : replaceOrAppend new (old :: rest) = new :: rest := by
  rw [replaceOrAppend, if_pos h]

/-- A case for a browser that supersedes none goes to the end. -/
theorem replaceOrAppend_new (new : TestCase) (cases : List TestCase)
    (h : ∀ old ∈ cases, supersedes new old = false) :
    replaceOrAppend new cases = cases ++ [new] := by
  have := replaceOrAppend_append new cases [] h
  rwa [List.append_nil] at this

/-- A case for a browser leaves the cases of rows alone. -/
theorem rowCases_replaceOrAppend (new : TestCase) (hnew : new.origin ≠ .row)
    (cases : List TestCase) : rowCases (replaceOrAppend new cases) = rowCases cases := by
  induction cases with
  | nil => simp [replaceOrAppend, rowCases, hnew]
  | cons old rest ih =>
    unfold replaceOrAppend
    split
    · next h =>
      have hold := ((supersedes_iff new old).mp h).1
      simp [rowCases, hnew, hold]
    · show rowCases ([old] ++ replaceOrAppend new rest) = rowCases ([old] ++ rest)
      rw [rowCases_append, rowCases_append, ih]

/-- A case for a browser adds its arguments to those that are passed, unless they are there. -/
theorem browserArguments_replaceOrAppend (new : TestCase) (hnew : new.origin ≠ .row)
    (cases : List TestCase) :
    browserArguments (replaceOrAppend new cases) =
      if new.arguments ∈ browserArguments cases then browserArguments cases
      else browserArguments cases ++ [new.arguments] := by
  induction cases with
  | nil => simp [replaceOrAppend, browserArguments, hnew]
  | cons old rest ih =>
    unfold replaceOrAppend
    split
    · next h =>
      obtain ⟨hold, harguments⟩ := (supersedes_iff new old).mp h
      simp [browserArguments, hnew, hold, harguments]
    · next h =>
      have hne : old.origin ≠ .row → new.arguments ≠ old.arguments :=
        fun hold he => h ((supersedes_iff new old).mpr ⟨hold, he.symm⟩)
      by_cases hold : old.origin = .row
      · simp only [browserArguments_cons_row old hold, ih]
      · simp only [browserArguments_cons_browser old hold, ih, List.mem_cons, hne hold, false_or]
        split <;> rfl

theorem browserArguments_replaceOrAppend_nodup (new : TestCase) (hnew : new.origin ≠ .row)
    (cases : List TestCase) (h : (browserArguments cases).Nodup) :
    (browserArguments (replaceOrAppend new cases)).Nodup := by
  rw [browserArguments_replaceOrAppend new hnew]
  split
  · exact h
  · next hmem =>
    rw [← List.concat_eq_append]
    exact List.Nodup.concat hmem h

/-! ### Pushing a case -/

/-- The case of a row alone goes to the end. -/
theorem pushCase_row (m : TestMethod) (new : TestCase) (hnew : new.origin = .row) :
    m.pushCase new = { m with cases := m.cases ++ [new] } := by
  simp only [pushCase, addCase, if_pos hnew]

/-- A case for a browser takes the place of the one it supersedes, or goes to the end. -/
theorem pushCase_browser (m : TestMethod) (new : TestCase) (hnew : new.origin ≠ .row) :
    m.pushCase new = { m with cases := replaceOrAppend new m.cases } := by
  simp only [pushCase, addCase, if_neg hnew]

theorem browserCase_origin (id name : String) (row : Option RowArguments) :
    (browserCase id name row).origin ≠ .row := by
  cases row <;> simp [browserCase]

end TestMethod
end CrossBrowser
