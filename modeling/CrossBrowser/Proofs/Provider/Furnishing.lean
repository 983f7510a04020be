import CrossBrowser.Generation
import Mathlib.Data.List.Nodup

/-! What the provider for remote browsers puts into a class.

Each of its steps may be asked for any number of times and in any order, for any methods. What a
step puts into the class stands there from its first time on, and only once: most steps look for it
first (`addMissing`), and the call that begins a scenario is guarded by the draft. `Furnished` says
what is in a class once it is known which steps were asked for; `run_furnished` says that nothing
else about the steps matters. -/
namespace CrossBrowser
open RemoteBrowser

/-- What can be done to the draft of a class: a step of the provider, or taking in a method. -/
inductive DraftStep where
  | beginClass (title : String) (description : Option String)
  | classCategories (categories : List String)
  | classInitialize
  | beginMethod (m : TestMethod) (title : String)
  | methodCategories (m : TestMethod) (categories : List String)
  | row (m : TestMethod) (cells tags : List String) (ignored : Bool)
  | endClass
  | addMethod (m : TestMethod)

namespace DraftStep

def beginsClass : DraftStep → Bool
  | .beginClass .. => true
  | _ => false

def initializesClass : DraftStep → Bool
  | .classInitialize => true
  | _ => false

def beginsMethod : DraftStep → Bool
  | .beginMethod .. => true
  | _ => false

def endsClass : DraftStep → Bool
  | .endClass => true
  | _ => false

end DraftStep

namespace Draft

def next (d : Draft) : DraftStep → Draft
  | .beginClass title description => provider.beginClass d title description
  | .classCategories categories => provider.classCategories d categories
  | .classInitialize => provider.classInitialize d
  | .beginMethod m title => (provider.beginMethod d m title).1
  | .methodCategories m categories => (provider.methodCategories d m categories).1
  | .row m cells tags ignored => (provider.row d m cells tags ignored).1
  | .endClass => provider.endClass d
  | .addMethod m => d.addMethod m

def run (d : Draft) : List DraftStep → Draft
  | [] => d
  | step :: rest => run (d.next step) rest

/-! ### What is in the class -/

/-- Elements that are in a list from some time on, and nothing else. -/
def since {α : Type} (reached : Bool) (xs : List α) : List α := if reached then xs else []

theorem count_since {α : Type} [BEq α] [LawfulBEq α] (reached : Bool) (xs : List α) (h : xs.Nodup)
    (x : α) (hx : x ∈ xs) : (since reached xs).count x = if reached then 1 else 0 := by
  cases reached with
  | false => rfl
  | true => exact List.count_eq_one_of_mem h hx

/-- What is in the class, given whether the class has been begun, initialised and ended, and whether
a method has been begun. -/
structure Furnished (begun initialized entered ended : Bool) (d : Draft) : Prop where
  imports : d.testClass.imports = since begun requiredImports
  fields : d.testClass.fields = since begun privateFields
  helpers : d.testClass.helpers = since begun [registerHost]
  markers : d.testClass.markers = since begun [.testFixture]
  setUpMarkers : d.testClass.classInitialize.markers = since initialized [.testFixtureSetUp]
  setUp : d.testClass.classInitialize.statements = since initialized [.configureRemote]
  scenario : d.testClass.scenarioInitialize.statements = since entered [.registerHost]
  ready : d.scenarioReady = entered
  cleanup : d.testClass.testCleanup.statements = since ended [.disposeHost]

theorem furnished_named (namespaceName name : String) :
    Furnished false false false false (named namespaceName name) :=
  ⟨rfl, rfl, rfl, rfl, rfl, rfl, rfl, rfl, rfl⟩

variable {begun initialized entered ended : Bool} {d : Draft}

theorem Furnished.beginClass (h : Furnished begun initialized entered ended d) (title : String) :
    Furnished true initialized entered ended (RemoteBrowser.beginClass d title) where
  imports := by
    show requiredImports.foldl (addMissing (· == ·)) d.testClass.imports = requiredImports
    rw [h.imports]
    cases begun <;> decide
  fields := by
    show privateFields.foldl (addMissing _) d.testClass.fields = privateFields
    rw [h.fields]
    cases begun <;> decide
  helpers := by
    show addMissing (fun x y => x.name == y.name) d.testClass.helpers registerHost = [registerHost]
    rw [h.helpers]
    cases begun <;> rfl
  markers := by
    show addMissing (· == ·) d.testClass.markers .testFixture = [.testFixture]
    rw [h.markers]
    cases begun <;> rfl
  setUpMarkers := h.setUpMarkers
  setUp := h.setUp
  scenario := h.scenario
  ready := h.ready
  cleanup := h.cleanup

theorem Furnished.classInitialize (h : Furnished begun initialized entered ended d) :
    Furnished begun true entered ended (RemoteBrowser.classInitialize d) where
  imports := h.imports
  fields := h.fields
  helpers := h.helpers
  markers := h.markers
  setUpMarkers := by
    show addMissing (· == ·) d.testClass.classInitialize.markers .testFixtureSetUp =
      [.testFixtureSetUp]
    rw [h.setUpMarkers]
    cases initialized <;> rfl
  setUp := by
    show addMissing (· == ·) d.testClass.classInitialize.statements .configureRemote =
      [.configureRemote]
    rw [h.setUp]
    cases initialized <;> rfl
  scenario := h.scenario
  ready := h.ready
  cleanup := h.cleanup

/-- The first method that is begun claims the step that begins a scenario; the others find it
claimed. -/
theorem Furnished.readyScenario (h : Furnished begun initialized entered ended d) :
    Furnished begun initialized true ended (RemoteBrowser.readyScenario d) := by
  unfold RemoteBrowser.readyScenario
  cases entered with
  | true =>
    rw [if_pos h.ready]
    exact h
  | false =>
    rw [if_neg (by rw [h.ready]; exact Bool.false_ne_true)]
    refine { h with scenario := ?_, ready := rfl }
    show d.testClass.scenarioInitialize.statements ++ [.registerHost] = [.registerHost]
    rw [h.scenario]
    rfl

theorem Furnished.endClass (h : Furnished begun initialized entered ended d) :
    Furnished begun initialized entered true (RemoteBrowser.endClass d) := by
  refine { h with cleanup := ?_ }
  show addMissing (· == ·) d.testClass.testCleanup.statements .disposeHost = [.disposeHost]
  rw [h.cleanup]
  cases ended <;> rfl

/-! ### One step -/

theorem Furnished.next (h : Furnished begun initialized entered ended d) (step : DraftStep) :
    Furnished (begun || step.beginsClass) (initialized || step.initializesClass)
      (entered || step.beginsMethod) (ended || step.endsClass) (d.next step) := by
  cases step <;>
    simp only [DraftStep.beginsClass, DraftStep.initializesClass, DraftStep.beginsMethod,
      DraftStep.endsClass, Bool.or_false, Bool.or_true]
  case beginClass title description => exact h.beginClass title
  case classCategories categories => exact { h with }
  case classInitialize => exact h.classInitialize
  case beginMethod m title => exact h.readyScenario
  case methodCategories m categories => exact h
  case row m cells tags ignored => exact h
  case endClass => exact h.endClass
  case addMethod m => exact { h with }

/-! ### Runs -/

theorem Furnished.run (steps : List DraftStep) (h : Furnished begun initialized entered ended d) :
    Furnished (begun || steps.any (·.beginsClass)) (initialized || steps.any (·.initializesClass))
      (entered || steps.any (·.beginsMethod)) (ended || steps.any (·.endsClass)) (d.run steps) := by
  induction steps generalizing begun initialized entered ended d with
  | nil =>
    simp only [List.any_nil, Bool.or_false]
    exact h
  | cons step rest ih =>
    have hrest := ih (h.next step)
    simp only [Bool.or_assoc] at hrest
    exact hrest

/-- **Everything once.** After any steps of the provider on the draft of a new class, whatever the
methods they were for, what a step puts into the class is there exactly once if the step was asked
for, and not at all if it was not. A session is started at the beginning of a scenario, once, if and
only if a method was begun, and the draft knows. -/
theorem run_furnished (namespaceName name : String) (steps : List DraftStep) :
    let d := (named namespaceName name).run steps
    let begun := if steps.any (·.beginsClass) then 1 else 0
    let initialized := if steps.any (·.initializesClass) then 1 else 0
    (∀ i ∈ requiredImports, d.testClass.imports.count i = begun) ∧
      (∀ f ∈ privateFields, d.testClass.fields.count f = begun) ∧
      d.testClass.helpers.count registerHost = begun ∧
      d.testClass.markers.count .testFixture = begun ∧
      d.testClass.classInitialize.markers.count .testFixtureSetUp = initialized ∧
      d.testClass.classInitialize.count .configureRemote = initialized ∧
      d.testClass.testCleanup.count .disposeHost = (if steps.any (·.endsClass) then 1 else 0) ∧
      d.testClass.scenarioInitialize.statements =
        (if steps.any (·.beginsMethod) then [.registerHost] else []) ∧
      d.scenarioReady = steps.any (·.beginsMethod) := by
  intro d begun initialized
  have h := (furnished_named namespaceName name).run steps
  simp only [Bool.false_or] at h
  refine ⟨fun i hi => ?_, fun f hf => ?_, ?_, ?_, ?_, ?_, ?_, h.scenario, h.ready⟩
  · rw [h.imports]
    exact count_since _ _ (by decide) i hi
  · rw [h.fields]
    exact count_since _ _ (by decide) f hf
  · rw [h.helpers]
    exact count_since _ _ (List.nodup_singleton _) _ List.mem_cons_self
  · rw [h.markers]
    exact count_since _ _ (List.nodup_singleton _) _ List.mem_cons_self
  · rw [h.setUpMarkers]
    exact count_since _ _ (List.nodup_singleton _) _ List.mem_cons_self
  · rw [Member.count, h.setUp]
    exact count_since _ _ (List.nodup_singleton _) _ List.mem_cons_self
  · rw [Member.count, h.cleanup]
    exact count_since _ _ (List.nodup_singleton _) _ List.mem_cons_self

end Draft
end CrossBrowser
