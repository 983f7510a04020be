import CrossBrowser.Proofs.TestMethod.Cases
import CrossBrowser.Provider.RemoteBrowser

/-! Runs of operations on a method under construction.

A method begins with nothing but its identifier, and cases, rows, browsers and categories are added
to it in any order; cases of one origin may be removed again. Most operations work for browsers.
What they have in common is `Advances`: they keep the cases of rows as they are and only ever add
notes at the end. `run_keeps` says what holds after any run, and what one more operation then
does. -/
namespace CrossBrowser

/-- What can be done to a method under construction. -/
inductive MethodStep where
  /-- Adds a case. -/
  | push (c : TestCase)
  /-- Removes the cases of one origin. -/
  | remove (origin : Origin)
  /-- Records a browser and adds its case, with a name and a row if they are given. -/
  | addBrowser (id : String) (name : Option String) (row : Option RowArguments)
  /-- Adds the case of a row on every browser recorded. -/
  | fanOut (row : RowArguments)
  /-- Adds an example row. -/
  | setRow (cells tags : List String) (ignored : Bool)
  /-- Takes in categories. -/
  | categories (categories : List String)
  deriving DecidableEq

namespace TestMethod

def next (m : TestMethod) : MethodStep → TestMethod
  | .push c => m.pushCase c
  | .remove origin => m.removeCases origin
  | .addBrowser id name row => m.addBrowser id name row
  | .fanOut row => m.fanOut row
  | .setRow cells tags ignored => m.setRow cells tags ignored
  | .categories categories => RemoteBrowser.methodCategories m categories

def run (m : TestMethod) : List MethodStep → TestMethod
  | [] => m
  | step :: rest => run (m.next step) rest

/-- The cases of rows that an operation adds: a case that is pushed, or a row while no browser is
recorded. -/
def rowsAdded (m : TestMethod) : MethodStep → List TestCase
  | .push c => if c.origin = .row then [c] else []
  | .setRow cells tags ignored =>
    if m.metadata.browsers = [] then [(RowArguments.ofRow cells tags ignored).toCase] else []
  | _ => []

/-! ### What every run keeps -/

/-- No two cases for browsers pass the same arguments, and no key stands twice in the metadata. -/
structure Consistent (m : TestMethod) : Prop where
  arguments : (browserArguments m.cases).Nodup
  keys : m.metadata.keys.Nodup

theorem consistent_named (identifier : String) : Consistent (named identifier) :=
  ⟨List.nodup_nil, List.nodup_nil⟩

/-- What an operation for browsers does: it keeps the cases of rows, and the notes in front of what
it adds. -/
structure Advances (m m' : TestMethod) : Prop where
  consistent : Consistent m → Consistent m'
  rows : rowCases m'.cases = rowCases m.cases
  notes : m.metadata.entries <+: m'.metadata.entries

theorem Advances.refl (m : TestMethod) : Advances m m := ⟨id, rfl, List.prefix_rfl⟩

theorem Advances.trans {m₁ m₂ m₃ : TestMethod} (h₁ : Advances m₁ m₂) (h₂ : Advances m₂ m₃) :
    Advances m₁ m₃ :=
  ⟨fun h => h₂.consistent (h₁.consistent h), h₂.rows.trans h₁.rows, h₁.notes.trans h₂.notes⟩

theorem Advances.foldl {α : Type} (f : TestMethod → α → TestMethod)
    (hf : ∀ m x, Advances m (f m x)) (xs : List α) (m : TestMethod) :
    Advances m (xs.foldl f m) := by
  induction xs generalizing m with
  | nil => exact .refl m
  | cons x rest ih => exact (hf m x).trans (ih (f m x))

/-- Fields that hold neither cases nor notes do not matter. -/
theorem Advances.of_eq {m m' : TestMethod} (hc : m'.cases = m.cases)
    (hm : m'.metadata = m.metadata) : Advances m m' := by
  refine ⟨fun h => ⟨?_, ?_⟩, by rw [hc], [], by rw [hm, List.append_nil]⟩
  · rw [hc]
    exact h.arguments
  · rw [hm]
    exact h.keys

/-! ### The operations for browsers -/

theorem pushCase_advances (m : TestMethod) (new : TestCase) (hnew : new.origin ≠ .row) :
    Advances m (m.pushCase new) where
  consistent h := by
    rw [pushCase_browser m new hnew]
    exact ⟨browserArguments_replaceOrAppend_nodup new hnew m.cases h.arguments, h.keys⟩
  rows := by
    rw [pushCase_browser m new hnew]
    exact rowCases_replaceOrAppend new hnew m.cases
  notes := List.prefix_rfl

theorem addBrowser_advances (m : TestMethod) (id : String) (name : Option String)
    (row : Option RowArguments) : Advances m (m.addBrowser id name row) := by
  let noted : TestMethod := { m with metadata := m.metadata.insertIfAbsent (browserKey id) id }
  have hnoted : Advances m noted :=
    ⟨fun h => ⟨h.arguments, Metadata.insertIfAbsent_nodup _ _ _ h.keys⟩, rfl,
      Metadata.insertIfAbsent_prefix _ _ _⟩
  exact hnoted.trans (pushCase_advances noted _ (browserCase_origin id _ row))

theorem removeCases_consistent (m : TestMethod) (origin : Origin) (h : Consistent m) :
    Consistent (m.removeCases origin) :=
  ⟨(browserArguments_filter _ m.cases).nodup h.arguments, h.keys⟩

theorem rowCases_removeCases (m : TestMethod) (origin : Origin) :
    rowCases (m.removeCases origin).cases = if origin = .row then [] else rowCases m.cases := by
  simp only [rowCases, removeCases, List.filter_filter]
  split
  · next h =>
    subst h
    simp
  · next h =>
    apply List.filter_congr
    intro c _
    by_cases hc : c.origin = .row
    · simp [hc, Ne.symm h]
    · simp [hc]

theorem removeCases_advances (m : TestMethod) (origin : Origin) (h : origin ≠ .row) :
    Advances m (m.removeCases origin) :=
  ⟨removeCases_consistent m origin, by rw [rowCases_removeCases, if_neg h], List.prefix_rfl⟩

theorem fanOut_advances (m : TestMethod) (row : RowArguments) : Advances m (m.fanOut row) :=
  (removeCases_advances m .browser (by decide)).trans
    (.foldl _ (fun m' id => addBrowser_advances m' id _ _) _ _)

/-- Parameters with the one for the browser in front, unless one of its name is there. -/
def parametersWithBrowser (parameters : List Parameter) : List Parameter :=
  if parameters.any (·.name == RemoteBrowser.browserParameter) then parameters
  else ⟨"string", RemoteBrowser.browserParameter, none⟩ :: parameters

/-- Statements with the copying of the browser in front, in place of what sets or clears it. -/
def statementsWithBrowser (statements : List Statement) : List Statement :=
  .assignBrowser RemoteBrowser.browserParameter ::
    statements.filter (!RemoteBrowser.setsBrowser ·)

/-- A browser that becomes a parameter changes nothing but the parameters and the statements. -/
theorem withBrowser_eq (m : TestMethod) :
    RemoteBrowser.withBrowserAssigned (RemoteBrowser.withBrowserParameter m) =
      { m with
        parameters := parametersWithBrowser m.parameters
        statements := statementsWithBrowser m.statements } := by
  unfold RemoteBrowser.withBrowserParameter parametersWithBrowser
  split <;> rfl

theorem methodCategories_advances (m : TestMethod) (categories : List String) :
    Advances m (RemoteBrowser.methodCategories m categories) := by
  let m₁ : TestMethod := { m with categories := m.categories ++ (classify categories).plain }
  let m₂ := (classify categories).browsers.foldl (fun m id => m.addBrowser id none none) m₁
  have h₁ : Advances m m₁ := .of_eq rfl rfl
  have h₂ : Advances m m₂ :=
    h₁.trans (.foldl _ (fun m' id => addBrowser_advances m' id none none) _ m₁)
  show Advances m (if (classify categories).hasBrowsers then
    RemoteBrowser.withBrowserAssigned (RemoteBrowser.withBrowserParameter m₂) else m₂)
  split
  · rw [withBrowser_eq]
    exact h₂.trans (.of_eq rfl rfl)
  · exact h₂

/-! ### One operation -/

theorem pushCase_row_consistent (m : TestMethod) (new : TestCase) (hnew : new.origin = .row)
    (h : Consistent m) : Consistent (m.pushCase new) := by
  rw [pushCase_row m new hnew]
  refine ⟨?_, h.keys⟩
  rw [browserArguments_append]
  simpa [browserArguments, hnew] using h.arguments

theorem setRow_consistent (m : TestMethod) (cells tags : List String) (ignored : Bool)
    (h : Consistent m) : Consistent (m.setRow cells tags ignored) := by
  unfold setRow
  split
  · exact pushCase_row_consistent m _ rfl h
  · exact (fanOut_advances m _).consistent h

theorem next_consistent (m : TestMethod) (step : MethodStep) (h : Consistent m) :
    Consistent (m.next step) := by
  cases step with
  | push c =>
    by_cases hc : c.origin = .row
    · exact pushCase_row_consistent m c hc h
    · exact (pushCase_advances m c hc).consistent h
  | remove origin => exact removeCases_consistent m origin h
  | addBrowser id name row => exact (addBrowser_advances m id name row).consistent h
  | fanOut row => exact (fanOut_advances m row).consistent h
  | setRow cells tags ignored => exact setRow_consistent m cells tags ignored h
  | categories categories => exact (methodCategories_advances m categories).consistent h

/-- The cases of rows change in two ways: some are added at the end, or all are removed. -/
theorem next_rows (m : TestMethod) (step : MethodStep) :
    rowCases (m.next step).cases =
      if step = .remove .row then [] else rowCases m.cases ++ rowsAdded m step := by
  have kept : ∀ m', Advances m m' → rowCases m'.cases = rowCases m.cases ++ [] := fun m' h => by
    rw [h.rows, List.append_nil]
  have added : ∀ c : TestCase, c.origin = .row →
      rowCases (m.pushCase c).cases = rowCases m.cases ++ [c] := fun c hc => by
    rw [pushCase_row m c hc, rowCases_append]
    simp [rowCases, hc]
  cases step with
  | push c =>
    rw [if_neg (by simp)]
    show rowCases (m.pushCase c).cases =
      rowCases m.cases ++ (if c.origin = .row then [c] else [])
    split
    · next hc => exact added c hc
    · next hc => exact kept _ (pushCase_advances m c hc)
  | remove origin =>
    show rowCases (m.removeCases origin).cases = _
    simp only [rowCases_removeCases, rowsAdded, List.append_nil, MethodStep.remove.injEq]
  | addBrowser id name row => exact kept _ (addBrowser_advances m id name row)
  | fanOut row => exact kept _ (fanOut_advances m row)
  | setRow cells tags ignored =>
    rw [if_neg (by simp)]
    show rowCases (m.setRow cells tags ignored).cases = rowCases m.cases ++
      (if m.metadata.browsers = [] then [(RowArguments.ofRow cells tags ignored).toCase] else [])
    unfold setRow
    split
    · exact added _ rfl
    · exact kept _ (fanOut_advances m _)
  | categories categories => exact kept _ (methodCategories_advances m categories)

/-- No operation changes a note that was taken before, or moves it. -/
theorem next_notes (m : TestMethod) (step : MethodStep) :
    m.metadata.entries <+: (m.next step).metadata.entries := by
  cases step with
  | push c => exact List.prefix_rfl
  | remove origin => exact List.prefix_rfl
  | addBrowser id name row => exact (addBrowser_advances m id name row).notes
  | fanOut row => exact (fanOut_advances m row).notes
  | setRow cells tags ignored =>
    show m.metadata.entries <+: (m.setRow cells tags ignored).metadata.entries
    unfold setRow
    split
    · exact List.prefix_rfl
    · exact (fanOut_advances m _).notes
  | categories categories => exact (methodCategories_advances m categories).notes

/-! ### Runs -/

theorem run_consistent (steps : List MethodStep) (m : TestMethod) (h : Consistent m) :
    Consistent (m.run steps) := by
  induction steps generalizing m with
  | nil => exact h
  | cons step rest ih => exact ih (m.next step) (next_consistent m step h)

/-- **After any run** of operations on a new method, no two cases for browsers pass the same
arguments and no key stands twice in the metadata. One more operation, whichever it is, leaves the
cases of rows as they are but for those it adds at their end, unless it is the one that removes
them, and leaves the notes taken before in front. -/
theorem run_keeps (identifier : String) (steps : List MethodStep) (step : MethodStep) :
    let m := (named identifier).run steps
    (browserArguments m.cases).Nodup ∧ m.metadata.keys.Nodup ∧
      rowCases (m.next step).cases =
        (if step = .remove .row then [] else rowCases m.cases ++ rowsAdded m step) ∧
      m.metadata.entries <+: (m.next step).metadata.entries := by
  intro m
  have h : Consistent m := run_consistent steps _ (consistent_named identifier)
  exact ⟨h.arguments, h.keys, next_rows m step, next_notes m step⟩

end TestMethod
end CrossBrowser
