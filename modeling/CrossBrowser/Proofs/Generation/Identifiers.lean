import CrossBrowser.Proofs.Generation.Shape
import CrossBrowser.Proofs.Naming.Identifiers

/-! Which names of a generated class are identifiers.

Each name is made from a text: the class from the title of the feature, a method from that of its
scenario, and a parameter from its column, if it is not one of the two that are always called the
same. A name is an identifier exactly if the text it is made from has no fractions, superscripts and
the like in it (`Naming.Unnumbered`). These belong to words, as all numerals do, and nothing leaves
them out of a name. -/
namespace CrossBrowser.Generation
open CSharp Naming

/-- The texts that the parameters for a table are made from. -/
def exampleTexts (t : ExampleTable) : List String := t.columnNames ++ [tagsParameter]

/-- The texts that the parameters of a scenario are made from. -/
def parameterTexts (s : Scenario) : List String :=
  (if s.browsers = [] then [] else [RemoteBrowser.browserParameter]) ++
    (s.examples.map exampleTexts).getD []

/-- A parameter that has an identifier for its name, the `@` that escapes it aside, exactly if the
text it is made from has none of the other numbers. -/
def NamedAfter (text : String) (p : Parameter) : Prop :=
  isIdentifier (unescape p.name) = true ↔ Unnumbered text.toList

/-- Which names of the method of a scenario are identifiers. -/
structure MethodNamedAfter (s : Scenario) (m : TestMethod) : Prop where
  identifier : isIdentifier m.identifier = true ↔ Unnumbered s.title.toList
  parameters : List.Forall₂ NamedAfter (parameterTexts s) m.parameters

/-- The names that are always the same are identifiers, and so are the texts for them. -/
theorem namedAfter_reserved :
    ∀ name ∈ reservedParameters, ∀ type, NamedAfter name ⟨type, name, none⟩ := by
  have hnames : ∀ name ∈ reservedParameters,
      isIdentifier (unescape name) = true ∧ Unnumbered name.toList := by decide +kernel
  intro name h type
  exact iff_of_true (hnames name h).1 (hnames name h).2

theorem namedAfter_exampleParameters (t : ExampleTable) :
    List.Forall₂ NamedAfter (exampleTexts t) (exampleParameters t) := by
  refine List.rel_append ?_ (.cons (namedAfter_reserved _ (by decide) _) .nil)
  rw [List.forall₂_map_right_iff]
  exact isIdentifier_parameterNames t.columnNames reservedParameters

theorem methodNamedAfter_shape (s : Scenario) : MethodNamedAfter s (shapedMethod s) where
  identifier := isIdentifier_pascal s.title
  parameters := by
    refine List.rel_append ?_ ?_
    · split
      · exact .nil
      · exact .cons (namedAfter_reserved _ (by decide) _) .nil
    · cases s.examples with
      | none => exact .nil
      | some t => exact namedAfter_exampleParameters t

/-- **Which names are identifiers.** The name of a generated class, that of each of its methods and
that of each parameter is an identifier exactly if the text it is made from has no numerals other
than digits and letters. -/
theorem generate_identifiers (namespaceName : String) (f : Feature) (c : TestClass)
    (h : generate namespaceName f = .ok c) :
    (isIdentifier c.name = true ↔ Unnumbered f.title.toList) ∧
      List.Forall₂ MethodNamedAfter f.scenarios c.methods := by
  rw [generate_shape namespaceName f c h]
  refine ⟨isIdentifier_className f.title, ?_⟩
  rw [show (featureClass namespaceName f).methods = f.scenarios.map shapedMethod from rfl,
    List.forall₂_map_right_iff, List.forall₂_same]
  exact fun s _ => methodNamedAfter_shape s

/-- A feature with a subscript in the title of a scenario and a superscript in that of a column. -/
def subscriptFeature : Feature :=
  { title := "Search"
    description := none
    tags := []
    scenarios :=
      [{ title := "Find H₂O"
         tags := []
         examples := some
          { columns := ["class", "area in m²"], rows := [⟨["water", "2"], [], false⟩] } }] }

/-- A class can be generated with a method that has no identifier for its name. -/
theorem generate_identifiers_subscript :
    ∃ c, generate "Pages" subscriptFeature = .ok c ∧ isIdentifier c.name = true ∧
      ∃ m ∈ c.methods, ¬isIdentifier m.identifier = true := by
  obtain ⟨c, h⟩ : ∃ c, generate "Pages" subscriptFeature = .ok c := exists_ok (by decide +kernel)
  obtain ⟨hclass, hmethods⟩ := generate_identifiers "Pages" subscriptFeature c h
  obtain ⟨m, rest, hm, _, heq⟩ := List.forall₂_cons_left_iff.mp hmethods
  refine ⟨c, h, hclass.mpr (by decide +kernel), m, heq ▸ List.mem_cons_self, ?_⟩
  exact fun hidentifier => absurd (hm.identifier.mp hidentifier) (by decide +kernel)

end CrossBrowser.Generation
