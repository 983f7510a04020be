import CrossBrowser.Proofs.Expansion.Fanout
import CrossBrowser.Proofs.TestMethod.Run

/-! Categories that come to a method twice.

Most of what categories do to a method is done once, however often they come: their browsers are
noted where their keys are free, the cases of the browsers take the places of those that pass the
same arguments, and the parameter and the copying of the browser stand in front once they are there.
The plain categories are not looked for first, so they stand there once more for each time
(`methodCategories_again`). -/
namespace CrossBrowser.RemoteBrowser
open TestMethod

/-! ### The browser as a parameter -/

theorem parametersWithBrowser_twice (parameters : List Parameter) :
    parametersWithBrowser (parametersWithBrowser parameters) = parametersWithBrowser parameters := by
  by_cases h : parameters.any (·.name == browserParameter) = true
  · have hsame : parametersWithBrowser parameters = parameters := if_pos h
    rw [hsame, hsame]
  · have hfirst : parametersWithBrowser parameters =
        ⟨"string", browserParameter, none⟩ :: parameters := if_neg h
    rw [hfirst]
    exact if_pos rfl

/-- The copying of the browser goes with what else sets it, and comes back in front. -/
theorem statementsWithBrowser_twice (statements : List Statement) :
    statementsWithBrowser (statementsWithBrowser statements) = statementsWithBrowser statements := by
  have hgone : (statementsWithBrowser statements).filter (!setsBrowser ·) =
      statements.filter (!setsBrowser ·) := by
    rw [statementsWithBrowser, List.filter_cons_of_neg (by decide), List.filter_filter]
    simp only [Bool.and_self]
  exact congrArg (Statement.assignBrowser browserParameter :: ·) hgone

/-! ### Taking in categories -/

/-- What categories do to a method, field by field. -/
theorem methodCategories_eq (m : TestMethod) (categories : List String) :
    methodCategories m categories =
      { m with
        categories := m.categories ++ (classify categories).plain
        parameters :=
          if categories.any targetsBrowser then parametersWithBrowser m.parameters else m.parameters
        statements :=
          if categories.any targetsBrowser then statementsWithBrowser m.statements else m.statements
        cases := addForBrowsers m.cases
          ((classify categories).browsers.map (browserAloneCase m.title))
        metadata := m.metadata.noting (classify categories).browsers } := by
  simp only [methodCategories, foldl_addBrowser _ _ (fun _ => none) none,
    hasBrowsers_classify, withBrowser_eq]
  split <;> rfl

/-- The second time, categories do to a method what the plain ones among them do. -/
theorem methodCategories_twice (m : TestMethod) (categories : List String) :
    methodCategories (methodCategories m categories) categories =
      { methodCategories m categories with
        categories := (methodCategories m categories).categories ++ (classify categories).plain } := by
  let once := methodCategories m categories
  have honce : once = _ := methodCategories_eq m categories
  have hparameters : (if categories.any targetsBrowser then parametersWithBrowser once.parameters
      else once.parameters) = once.parameters := by
    rw [honce]
    cases categories.any targetsBrowser with
    | false => rfl
    | true => exact parametersWithBrowser_twice m.parameters
  have hstatements : (if categories.any targetsBrowser then statementsWithBrowser once.statements
      else once.statements) = once.statements := by
    rw [honce]
    cases categories.any targetsBrowser with
    | false => rfl
    | true => exact statementsWithBrowser_twice m.statements
  have htitle : once.title = m.title := by
    rw [honce]
    rfl
  have hcases : addForBrowsers once.cases
      ((classify categories).browsers.map (browserAloneCase once.title)) = once.cases := by
    rw [htitle, honce]
    refine addForBrowsers_twice (fun c hc => ?_) m.cases
    obtain ⟨id, _, rfl⟩ := List.mem_map.mp hc
    exact browserCase_origin id _ none
  have hnotes : once.metadata.noting (classify categories).browsers = once.metadata := by
    rw [honce]
    exact Metadata.noting_of_recorded _ _ fun id hid =>
      (Metadata.mem_keys_noting _ _ id).mpr (.inr hid)
  show methodCategories once categories = _
  rw [methodCategories_eq once, hparameters, hstatements, hcases, hnotes]

theorem plain_eq_nil_iff (categories : List String) :
    (classify categories).plain = [] ↔ ∀ c ∈ categories, targetsBrowser c = true := by
  simp [classify, List.filter_eq_nil_iff]

/-- **Categories again.** Taking in categories a second time leaves the draft of the class as it is,
and of the method the parameters, the statements, the cases and the notes; the plain ones among the
categories stand at the end of its categories once more. So nothing changes exactly if all of them
target browsers. -/
theorem methodCategories_again (d : Draft) (m : TestMethod) (categories : List String) :
    let once := provider.methodCategories d m categories
    let twice := provider.methodCategories once.1 once.2 categories
    once.1 = d ∧
      twice = (once.1, { once.2 with
        categories := once.2.categories ++ categories.filter (!targetsBrowser ·) }) ∧
      (twice = once ↔ ∀ c ∈ categories, targetsBrowser c = true) := by
  intro once twice
  have htwice : twice = (once.1, { once.2 with
      categories := once.2.categories ++ (classify categories).plain }) :=
    congrArg (Prod.mk d) (methodCategories_twice m categories)
  refine ⟨rfl, htwice, ?_⟩
  rw [htwice, ← plain_eq_nil_iff]
  constructor
  · intro h
    have hcategories := congrArg (·.2.categories) h
    exact List.append_right_eq_self.mp hcategories
  · intro h
    rw [h, List.append_nil]
    rfl

example :
    let m := TestMethod.named "PlanAJourney"
    let categories := ["smoke", "browser:chrome"]
    let twice := methodCategories (methodCategories m categories) categories
    twice.categories = ["smoke", "smoke"] ∧ twice.cases.length = 1 := by decide

end CrossBrowser.RemoteBrowser
