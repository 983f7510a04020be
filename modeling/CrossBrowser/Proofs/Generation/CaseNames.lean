import CrossBrowser.Proofs.Expansion.RowNames
import CrossBrowser.Proofs.Generation.Invocable

/-! What the names of cases tell.

The name of a case on a browser is the title, the label of the browser and the cells of the row
(`TestCase.NamedFor`). It does not say what the label leaves out of the browser's identifier, nor
the tags of the row, and in it a quote in a cell looks like the one at the end of a cell. So two
cases of a method may pass different arguments under one name (`sharedFeature`). With no quotes in
their cells they have one name exactly if their labels and their cells are the same
(`generate_caseNames`). -/
namespace CrossBrowser

/-- The text that a literal is, if it is one. -/
def Literal.text? : Literal → Option String
  | .text value => some value
  | _ => none

/-- The texts that a case passes after its browser: the cells of its row. -/
def TestCase.cells (c : TestCase) : List String := c.arguments.tail.filterMap Literal.text?

/-- A case that is named for its browser and the cells of its row, if it has one. Nothing else that
it passes is a text. -/
structure TestCase.NamedFor (title id : String) (c : TestCase) : Prop where
  arguments : ∃ others, c.arguments = .text id :: (c.cells.map .text ++ others) ∧
    others.filterMap Literal.text? = []
  category : c.category = some (browserLabel id)
  name : c.name = some (browserCaseName title (browserLabel id) ++
    if c.origin = .browserRow then rowText c.cells else "")
  alone : c.origin ≠ .browserRow → c.cells = []

/-! ### The name of one case -/

theorem namedFor_browserAloneCase (title id : String) :
    (browserAloneCase title id).NamedFor title id where
  arguments := ⟨[], rfl, rfl⟩
  category := rfl
  name := by
    show some (browserCaseName title (browserLabel id)) = some (_ ++ "")
    rw [String.append_empty]
  alone _ := rfl

theorem text?_tagsLiteral (tags : List String) : (RowArguments.tagsLiteral tags).text? = none := by
  unfold RowArguments.tagsLiteral
  split <;> rfl

theorem cells_browserRowCase (title id : String) (r : ExampleRow) :
    (browserRowCase title r.contribution id).cells = r.cells := by
  show (r.cells.map Literal.text ++ [RowArguments.tagsLiteral r.tags]).filterMap Literal.text? =
    r.cells
  rw [List.filterMap_append, List.filterMap_map,
    List.filterMap_cons_none (text?_tagsLiteral r.tags), List.filterMap_nil, List.append_nil]
  exact List.filterMap_some

theorem namedFor_browserRowCase (title id : String) (r : ExampleRow) :
    (browserRowCase title r.contribution id).NamedFor title id where
  arguments := by
    refine ⟨[RowArguments.tagsLiteral r.tags], ?_, ?_⟩
    · rw [cells_browserRowCase]
      rfl
    · exact List.filterMap_cons_none (text?_tagsLiteral r.tags)
  category := rfl
  name := by
    rw [cells_browserRowCase]
    show some (rowCaseName title (browserLabel id) r.cells) = some (_ ++ rowText r.cells)
    rw [rowCaseName_eq]
  alone h := absurd rfl h

/-! ### The names of two cases -/

section
variable {title id id' : String} {a b : TestCase} (ha : a.NamedFor title id)
  (hb : b.NamedFor title id') (horigin : a.origin = b.origin)
include ha hb horigin

theorem name_eq_iff_of_cells (hcells : a.cells = b.cells) :
    a.name = b.name ↔ a.category = b.category := by
  rw [ha.name, hb.name, ha.category, hb.category, horigin, hcells, Option.some.injEq,
    Option.some.injEq, String.append_left_inj, browserCaseName, browserCaseName,
    String.append_right_inj]

theorem name_eq_iff_of_no_quotes (hlength : a.cells.length = b.cells.length)
    (hquotes : ∀ cell ∈ a.cells ++ b.cells, '"' ∉ cell.toList) :
    a.name = b.name ↔ a.category = b.category ∧ a.cells = b.cells := by
  by_cases hrow : b.origin = .browserRow
  · rw [ha.name, hb.name, ha.category, hb.category, horigin, if_pos hrow, if_pos hrow,
      Option.some.injEq, Option.some.injEq]
    constructor
    · intro h
      obtain ⟨hlabel, hcells⟩ := rowText_inj _ _ a.cells b.cells hlength
        (fun cell hcell => hquotes cell (List.mem_append_left _ hcell))
        (fun cell hcell => hquotes cell (List.mem_append_right _ hcell)) h
      exact ⟨(String.append_right_inj _).mp hlabel, hcells⟩
    · rintro ⟨hlabel, hcells⟩
      rw [hlabel, hcells]
  · have hcells : a.cells = b.cells := by
      rw [ha.alone (horigin ▸ hrow), hb.alone hrow]
    rw [name_eq_iff_of_cells ha hb horigin hcells, and_iff_left hcells]

end

namespace Generation

/-- The named cases of a method are all on a browser alone, or all on a browser with a row. -/
theorem named_cases (s : Scenario) (c : TestCase) (hc : c ∈ (scenarioMethod s).cases)
    (hname : c.name ≠ none) :
    (s.rows = [] ∧ ∃ id, c = browserAloneCase s.title id) ∨
      (s.rows ≠ [] ∧
        ∃ id, ∃ r ∈ mergedRows s.rows, c = browserRowCase s.title r.contribution id) := by
  by_cases hb : s.browsers = []
  · rw [cases_of_no_browsers s hb] at hc
    obtain ⟨r, _, rfl⟩ := List.mem_map.mp hc
    exact absurd rfl hname
  · by_cases hrows : s.rows = []
    · rw [cases_of_no_rows s hb hrows] at hc
      obtain ⟨id, _, rfl⟩ := List.mem_map.mp hc
      exact .inl ⟨hrows, id, rfl⟩
    · rw [cases_of_rows s hb hrows] at hc
      obtain ⟨r, hr, hc⟩ := List.mem_flatMap.mp hc
      obtain ⟨id, _, rfl⟩ := List.mem_map.mp hc
      exact .inr ⟨hrows, id, r, hr, rfl⟩

theorem scenarioMethod_title (s : Scenario) : (scenarioMethod s).title = s.title := by
  rw [scenarioMethod_eq]
  exact openedMethod_title s

theorem exists_namedFor (s : Scenario) (c : TestCase) (hc : c ∈ (scenarioMethod s).cases)
    (hname : c.name ≠ none) : ∃ id, c.NamedFor (scenarioMethod s).title id := by
  rw [scenarioMethod_title]
  rcases named_cases s c hc hname with ⟨-, id, rfl⟩ | ⟨-, id, r, -, rfl⟩
  · exact ⟨id, namedFor_browserAloneCase s.title id⟩
  · exact ⟨id, namedFor_browserRowCase s.title id r⟩

/-- The named cases of a method have one origin, and if the table of the scenario is valid they pass
equally many cells. -/
theorem named_alike (s : Scenario) (hvalid : ∀ t, s.examples = some t → Feature.TableValid t)
    (a b : TestCase) (ha : a ∈ (scenarioMethod s).cases) (hb : b ∈ (scenarioMethod s).cases)
    (hnamea : a.name ≠ none) (hnameb : b.name ≠ none) :
    a.origin = b.origin ∧ a.cells.length = b.cells.length := by
  have hwidth : ∀ r ∈ mergedRows s.rows, ∀ t, s.examples = some t → r.cells.length = t.width := by
    intro r hr t ht
    obtain ⟨row, hrow, hcells, -⟩ := mem_mergedRows s.rows r hr
    rw [rows_of_table s t ht] at hrow
    rw [hcells]
    exact hvalid t ht row hrow
  rcases named_cases s a ha hnamea with ⟨hrows, id, rfl⟩ | ⟨hrows, id, r, hr, rfl⟩ <;>
    rcases named_cases s b hb hnameb with ⟨hrows', id', rfl⟩ | ⟨hrows', id', r', hr', rfl⟩
  · exact ⟨rfl, rfl⟩
  · exact absurd hrows hrows'
  · exact absurd hrows' hrows
  · obtain ⟨t, ht⟩ : ∃ t, s.examples = some t :=
      Option.ne_none_iff_exists'.mp fun hnone => hrows (rows_of_no_table s hnone)
    rw [cells_browserRowCase, cells_browserRowCase, hwidth r hr t ht, hwidth r' hr' t ht]
    exact ⟨rfl, rfl⟩

/-- **What the names of the cases of a method tell.** Each is the title, the label of the browser
and the cells. Two cases with the same cells have one name exactly if their labels are the same. If
there are no quotes in their cells, two cases have one name exactly if both labels and cells are the
same. -/
theorem generate_caseNames (namespaceName : String) (f : Feature) (c : TestClass)
    (h : generate namespaceName f = .ok c) :
    ∀ m ∈ c.methods,
      (∀ a ∈ m.cases, a.name ≠ none → ∃ id, a.NamedFor m.title id) ∧
      ∀ a ∈ m.cases, ∀ b ∈ m.cases, a.name ≠ none → b.name ≠ none →
        (a.cells = b.cells → (a.name = b.name ↔ a.category = b.category)) ∧
        ((∀ cell ∈ a.cells ++ b.cells, '"' ∉ cell.toList) →
          (a.name = b.name ↔ a.category = b.category ∧ a.cells = b.cells)) := by
  obtain ⟨hfault, hmethods⟩ := generate_ok namespaceName f c h
  have hvalid := f.fault?_eq_none_iff.mp hfault
  intro m hm
  rw [hmethods] at hm
  obtain ⟨s, hs, rfl⟩ := List.mem_map.mp hm
  refine ⟨exists_namedFor s, fun a ha b hb hnamea hnameb => ?_⟩
  obtain ⟨id, hfora⟩ := exists_namedFor s a ha hnamea
  obtain ⟨id', hforb⟩ := exists_namedFor s b hb hnameb
  obtain ⟨horigin, hlength⟩ := named_alike s (hvalid.2 s hs).2 a b ha hb hnamea hnameb
  exact ⟨name_eq_iff_of_cells hfora hforb horigin,
    name_eq_iff_of_no_quotes hfora hforb horigin hlength⟩

/-- A feature with two browsers of one label, with two rows that differ in their tags, and with two
rows that have their quotes in different cells. -/
def sharedFeature : Feature :=
  { title := "Search"
    description := none
    tags := []
    scenarios :=
      [{ title := "Find a page", tags := ["browser:chrome 48", "browser:chrome,48"]
         examples := none },
       { title := "Find an image"
         tags := ["browser:chrome"]
         examples := some
          { columns := ["term"], rows := [⟨["a"], ["x"], false⟩, ⟨["a"], [], false⟩] } },
       { title := "Find a book"
         tags := ["browser:chrome"]
         examples := some
          { columns := ["author", "title"]
            rows := [⟨["x\" ,\"y", "z"], [], false⟩, ⟨["x", "y\" ,\"z"], [], false⟩] } }] }

/-- In each method of that feature two cases pass different arguments under one name. -/
theorem generate_caseNames_shared :
    ∃ c, generate "Pages" sharedFeature = .ok c ∧ c.methods.length = 3 ∧ ∀ m ∈ c.methods,
      (∃ a ∈ m.cases, ∃ b ∈ m.cases,
        a.name ≠ none ∧ a.arguments ≠ b.arguments ∧ a.name = b.name) ∧
      (∀ a ∈ m.cases, a.name ≠ none → ∃ id, a.NamedFor m.title id) ∧
      ∀ a ∈ m.cases, ∀ b ∈ m.cases, a.name ≠ none → b.name ≠ none →
        (a.cells = b.cells → (a.name = b.name ↔ a.category = b.category)) ∧
        ((∀ cell ∈ a.cells ++ b.cells, '"' ∉ cell.toList) →
          (a.name = b.name ↔ a.category = b.category ∧ a.cells = b.cells)) := by
  obtain ⟨c, h⟩ : ∃ c, generate "Pages" sharedFeature = .ok c := exists_ok (by decide +kernel)
  have hshared : c.methods.length = 3 ∧ ∀ m ∈ c.methods, ∃ a ∈ m.cases, ∃ b ∈ m.cases,
      a.name ≠ none ∧ a.arguments ≠ b.arguments ∧ a.name = b.name := by
    rw [(generate_ok _ _ _ h).2]
    decide +kernel
  refine ⟨c, h, hshared.1, fun m hm => ⟨hshared.2 m hm, ?_⟩⟩
  exact generate_caseNames "Pages" sharedFeature c h m hm

end Generation
end CrossBrowser
