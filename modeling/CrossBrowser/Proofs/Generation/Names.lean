import CrossBrowser.CSharp.Source
import CrossBrowser.Proofs.Generation.Acceptance
import CrossBrowser.Proofs.Generation.Shape

/-! The names that a generated class declares.

Besides its tests a class has members whose names are always the same (`fixedNames`). The name of a
class ends as none of these does, so the names clash only where the title of a scenario leads to one
of them, or to the name of the class (`declaredNames_nodup_iff`). That is not looked at when a
method is named: the names of the tests are compared with each other only. -/
namespace CrossBrowser

/-- The names that a class declares: its own, those of its members, and those of its tests. -/
def TestClass.declaredNames (c : TestClass) : List String :=
  c.name :: (CSharp.memberList c).map (·.name) ++ c.methods.map (·.identifier)

/-- The name of a class ends in its suffix. -/
theorem Naming.suffix_className (title : String) :
    classSuffix.toList <:+ (className title).toList := by
  rw [className, String.toList_append]
  exact List.suffix_append _ _

namespace Generation

/-- The names of the members that each class has besides its tests. -/
def fixedNames : List String :=
  ["FeatureSetup", "ScenarioInitialize", "ScenarioTearDown", "InitialiseAndRegisterBrowserHost"]

theorem className_not_fixed (title : String) : Naming.className title ∉ fixedNames := by
  have hother : ∀ name ∈ fixedNames, ¬Naming.classSuffix.toList <:+ name.toList := by decide
  exact fun h => hother _ h (Naming.suffix_className title)

theorem declaredNames_of_generate (namespaceName : String) (f : Feature) (c : TestClass)
    (h : generate namespaceName f = .ok c) :
    c.declaredNames =
      Naming.className f.title :: fixedNames ++ methodNames f.scenarios := by
  have hmethods : (f.scenarios.map shapedMethod).map (·.identifier) = methodNames f.scenarios := by
    rw [List.map_map]
    rfl
  rw [generate_shape namespaceName f c h, ← hmethods]
  rfl

/-- **Which names clash.** The names that a generated class declares differ exactly if no scenario
leads to the name of the class or to that of a member each class has. -/
theorem declaredNames_nodup_iff (namespaceName : String) (f : Feature) (c : TestClass)
    (h : generate namespaceName f = .ok c) :
    c.declaredNames.Nodup ↔
      ∀ s ∈ f.scenarios, Naming.methodName s.title ≠ Naming.className f.title ∧
        Naming.methodName s.title ∉ fixedNames := by
  have hothers : (Naming.className f.title :: fixedNames).Nodup :=
    List.nodup_cons.mpr ⟨className_not_fixed f.title, by decide⟩
  have hmethods : (methodNames f.scenarios).Nodup :=
    ((exists_generate_iff namespaceName f).mp ⟨c, h⟩).2
  rw [declaredNames_of_generate namespaceName f c h, List.nodup_append]
  constructor
  · rintro ⟨_, _, hdisjoint⟩ s hs
    have hname : Naming.methodName s.title ∈ methodNames f.scenarios := List.mem_map_of_mem hs
    refine ⟨fun he => ?_, fun hmem => ?_⟩
    · exact hdisjoint _ List.mem_cons_self _ hname he.symm
    · exact hdisjoint _ (List.mem_cons_of_mem _ hmem) _ hname rfl
  · intro hfree
    refine ⟨hothers, hmethods, fun name hname name' hname' he => ?_⟩
    obtain ⟨s, hs, rfl⟩ := List.mem_map.mp hname'
    rcases List.mem_cons.mp hname with rfl | hfixed
    · exact (hfree s hs).1 he.symm
    · exact (hfree s hs).2 (he ▸ hfixed)

/-- A feature with a scenario that leads to the name of a member. -/
def setupFeature : Feature :=
  { title := "Search"
    description := none
    tags := []
    scenarios := [{ title := "Feature setup", tags := [], examples := none }] }

/-- A class can be generated that declares a name twice. -/
theorem declaredNames_setup :
    ∃ c, generate "Pages" setupFeature = .ok c ∧ ¬c.declaredNames.Nodup := by
  obtain ⟨c, h⟩ : ∃ c, generate "Pages" setupFeature = .ok c := exists_ok (by decide +kernel)
  refine ⟨c, h, fun hnodup => ?_⟩
  have hfree := (declaredNames_nodup_iff "Pages" setupFeature c h).mp hnodup _ List.mem_cons_self
  exact absurd (by decide +kernel) hfree.2

end Generation
end CrossBrowser
