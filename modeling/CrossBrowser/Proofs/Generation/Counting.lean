import CrossBrowser.Proofs.CSharp.Counting
import CrossBrowser.Proofs.Generation.Shape

/-! The lines of a generated source text.

Names are made of letters, numerals and the like, so a generated class has no name that is broken by
a line feed. The lines of its source text are then those its parts write, and none of them can be
forged by what a feature says (`source_lines`). -/
namespace CrossBrowser

/-- A method without cases counts as one more than it has. -/
theorem TestClass.totalCases_eq (c : TestClass) :
    c.totalCases = CSharp.caseCount c + c.methods.countP (·.cases.isEmpty) := by
  rw [totalCases, CSharp.caseCount]
  induction c.methods with
  | nil => rfl
  | cons m rest ih =>
    rw [List.map_cons, List.foldr_cons, ih, List.map_cons, List.sum_cons, List.countP_cons]
    cases m.cases <;> simp <;> omega

namespace Generation
open CSharp Naming

/-! ### Names -/

theorem oneLine_of_wordlike {name : String} (h : ∀ c ∈ name.toList, Wordlike c.toNat) :
    OneLine name :=
  fun hline => absurd (h _ hline) (by decide)

theorem oneLine_pascal (text : String) : OneLine (pascal text) :=
  oneLine_of_wordlike (inNames_wordlike.pascal text)

theorem oneLineMethod_shape (s : Scenario) :
    OneLineMethod (shapedMethod s).identifier (shapedMethod s).parameters
      (shapedMethod s).statements where
  name := oneLine_pascal s.title
  parameters := by
    refine forall_parameters s ⟨by decide, by decide⟩ (fun t _ name hname => ?_)
      ⟨by decide, by decide⟩
    have htype : OneLine "string" := by decide
    exact ⟨htype, oneLine_of_wordlike (wordlike_parameterNames _ _ name hname)⟩
  statements := by
    refine List.forall_mem_cons.mpr ⟨?_, ?_⟩
    · unfold firstStatement
      split
      · exact trivial
      · exact (by decide : OneLine RemoteBrowser.browserParameter)
    · intro x hx
      rcases List.mem_cons.mp hx with rfl | hx
      · exact trivial
      · rw [List.mem_singleton.mp hx]
        exact trivial

theorem oneLineClass_feature {namespaceName : String} (hnamespace : OneLine namespaceName)
    (f : Feature) : OneLineClass (featureClass namespaceName f) where
  namespaceName := hnamespace
  name := (oneLine_pascal f.title).append (by decide)
  imports := by
    repeat refine List.forall_mem_cons.mpr ⟨oneLine_ofList (by decide), ?_⟩
    exact List.forall_mem_nil _
  fields := by
    repeat
      refine List.forall_mem_cons.mpr
        ⟨⟨oneLine_ofList (by decide), oneLine_ofList (by decide)⟩, ?_⟩
    exact List.forall_mem_nil _
  members := by
    refine List.forall_mem_cons.mpr ⟨?setup, List.forall_mem_cons.mpr ⟨?start,
      List.forall_mem_cons.mpr ⟨?tearDown, List.forall_mem_singleton.mpr ?host⟩⟩⟩
    case setup =>
      exact ⟨oneLine_ofList (by decide), List.forall_mem_nil _,
        List.forall_mem_singleton.mpr trivial⟩
    case start =>
      refine ⟨oneLine_ofList (by decide), List.forall_mem_singleton.mpr
        ⟨oneLine_ofList (by decide), oneLine_ofList (by decide)⟩, ?_⟩
      show ∀ x ∈ if f.scenarios = [] then [] else [Statement.registerHost], OneLineStatement x
      split
      · exact List.forall_mem_nil _
      · exact List.forall_mem_singleton.mpr trivial
    case tearDown =>
      exact ⟨oneLine_ofList (by decide), List.forall_mem_nil _,
        List.forall_mem_singleton.mpr trivial⟩
    case host =>
      exact ⟨oneLine_ofList (by decide), List.forall_mem_singleton.mpr
        ⟨oneLine_ofList (by decide), oneLine_ofList (by decide)⟩,
        List.forall_mem_singleton.mpr trivial⟩
  methods := by
    show ∀ m ∈ f.scenarios.map shapedMethod, _
    rw [List.forall_mem_map]
    exact fun s _ => oneLineMethod_shape s

/-- **No text of a feature makes or breaks a line.** In the source text of a generated class,
without a header, as many lines begin like the attribute of a test case as the methods have cases,
and as many like the declaration of a method as there are scenarios and members. With one more for
each method without cases, the lines of test cases are as many as the tests that are run. -/
theorem source_lines (namespaceName : String) (f : Feature) (c : TestClass)
    (hnamespace : '\n' ∉ namespaceName.toList) (h : generate namespaceName f = .ok c) :
    linesBeginning "[NUnit.Framework.TestCaseAttribute(" (source c ⟨none, none⟩) =
        (c.methods.map (·.cases.length)).sum ∧
      linesBeginning "public virtual void " (source c ⟨none, none⟩) = f.scenarios.length + 4 ∧
      linesBeginning "[NUnit.Framework.TestCaseAttribute(" (source c ⟨none, none⟩) +
        c.methods.countP (·.cases.isEmpty) = c.totalCases := by
  have hshape := generate_shape namespaceName f c h
  have hc : OneLineClass c := hshape ▸ oneLineClass_feature hnamespace f
  obtain ⟨hcases, hmethods⟩ := linesBeginning_source (h := ⟨none, none⟩) hc (by simp) (by simp)
  rw [caseOpening] at hcases
  rw [methodOpening] at hmethods
  refine ⟨hcases, ?_, by rw [hcases, c.totalCases_eq]⟩
  rw [hmethods, hshape, Nat.add_comm]
  simp [featureClass, memberList]

/-- A feature whose texts try to end their lines and begin others. -/
def hostileFeature : Feature :=
  { title := "Search\")]\npublic virtual void Search()"
    description := some "\n"
    tags := ["smoke\n[NUnit.Framework.TestCaseAttribute("]
    scenarios :=
      [{ title := "Find\n        public virtual void Find()\n"
         tags := ["browser:chrome\n[NUnit.Framework.TestCaseAttribute(\"", "slow\r\n"]
         examples := some
          { columns := ["term\n)", "public virtual void "]
            rows := [⟨["a\n[NUnit.Framework.TestCaseAttribute(", "\""], ["x\n"], true⟩] } },
        { title := "Leave", tags := [], examples := none }] }

theorem source_lines_hostile :
    ∃ c, '\n' ∉ "Pages".toList ∧ generate "Pages" hostileFeature = .ok c ∧
      linesBeginning "[NUnit.Framework.TestCaseAttribute(" (source c ⟨none, none⟩) = 1 ∧
        linesBeginning "public virtual void " (source c ⟨none, none⟩) = 6 := by
  have hnamespace : '\n' ∉ "Pages".toList := by decide
  obtain ⟨c, h⟩ : ∃ c, generate "Pages" hostileFeature = .ok c := exists_ok (by decide +kernel)
  obtain ⟨hcases, hmethods, _⟩ := source_lines "Pages" hostileFeature c hnamespace h
  refine ⟨c, hnamespace, h, ?_, hmethods⟩
  rw [hcases, generate_shape "Pages" hostileFeature c h]
  decide +kernel

end Generation
end CrossBrowser
