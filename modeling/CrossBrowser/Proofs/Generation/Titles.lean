import CrossBrowser.Proofs.Generation.Acceptance
import CrossBrowser.Proofs.Naming.Capitals

/-! Titles that methods can be told apart by.

A feature is refused when two of its scenarios lead to one method name, with the advice to let their
titles differ in letters or digits. That is enough, unless they differ in nothing but the case of
letters (`methodName_tells`). It is more than is needed: names also keep some of the case, as words
begin with a capital. -/
namespace CrossBrowser.Generation

/-- Scenarios have different method names if their titles have different letters and numerals. -/
theorem methodNames_nodup {scenarios : List Scenario}
    (h : (scenarios.map fun s => Naming.capitals s.title).Nodup) :
    (methodNames scenarios).Nodup := by
  rw [methodNames, List.Nodup, List.pairwise_map]
  rw [List.Nodup, List.pairwise_map] at h
  exact h.imp fun hne hname => hne (Naming.capitals_of_methodName hname)

/-- **Titles are told apart by their letters and numerals.** Two titles that lead to one method name
have the same letters and numerals in upper case. So for a valid feature whose scenarios have titles
that differ in these, up to their case, a class is generated. -/
theorem methodName_tells :
    (∀ title title', Naming.methodName title = Naming.methodName title' →
        Naming.capitals title = Naming.capitals title') ∧
      ∀ namespaceName (f : Feature), f.Valid →
        (f.scenarios.map fun s => Naming.capitals s.title).Nodup →
        ∃ c, generate namespaceName f = .ok c := by
  constructor
  · intro title title' h
    exact Naming.capitals_of_methodName h
  · intro namespaceName f hvalid hcapitals
    exact (exists_generate_iff namespaceName f).mpr ⟨hvalid, methodNames_nodup hcapitals⟩

/-- A feature with scenarios whose titles differ in a letter, in a numeral, or in a letter that is
two in upper case. -/
def streetFeature : Feature :=
  { title := "Streets"
    description := none
    tags := []
    scenarios :=
      [{ title := "Find a Straße", tags := [], examples := none },
       { title := "Find a Strase", tags := [], examples := none },
       { title := "Find 2 Straßen", tags := [], examples := none },
       { title := "Find ² Straßen", tags := [], examples := none }] }

theorem methodName_tells_streets :
    (Naming.methodName "3 ßtraße" = Naming.methodName "(3) sStraße" ∧
        Naming.capitals "3 ßtraße" = Naming.capitals "(3) sStraße") ∧
      streetFeature.Valid ∧
      (streetFeature.scenarios.map fun s => Naming.capitals s.title).Nodup ∧
      ∃ c, generate "Pages" streetFeature = .ok c := by
  obtain ⟨htitles, hfeatures⟩ := methodName_tells
  have hsame : Naming.methodName "3 ßtraße" = Naming.methodName "(3) sStraße" := by decide +kernel
  have hvalid : streetFeature.Valid := streetFeature.fault?_eq_none_iff.mp (by decide +kernel)
  have hcapitals : (streetFeature.scenarios.map fun s => Naming.capitals s.title).Nodup := by
    decide +kernel
  exact ⟨⟨hsame, htitles _ _ hsame⟩, hvalid, hcapitals,
    hfeatures "Pages" streetFeature hvalid hcapitals⟩

/-- Titles with the same letters can lead to different names. -/
example : Naming.capitals "ab c" = Naming.capitals "a bc" ∧
    Naming.methodName "ab c" ≠ Naming.methodName "a bc" := by decide +kernel

end CrossBrowser.Generation
