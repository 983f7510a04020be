import CrossBrowser.Proofs.Expansion.Fanout

/-! Rows that come to any method.

Whatever notes and cases a method has, a row changes its cases as if the cases that the row gives
were added one by one (`setRow_eq_expandRow`): that a browser noted twice is gone through twice, and
noted once more under its own key, makes no difference to the cases. And rows that all come again
leave the method as it was after they came the first time (`setRows_twice`). -/
namespace CrossBrowser.TestMethod

/-! ### One row -/

/-- **What a row does to a method.** Its cases are the old ones, without those of the browsers alone
if any browser is recorded, to which the cases that the row gives have been added in order. The
recorded browsers are noted under their own keys, where these were free. Nothing else changes. -/
theorem setRow_eq_expandRow (m : TestMethod) (cells tags : List String) (ignored : Bool) :
    m.setRow cells tags ignored =
      { m with
        cases := (expandRow m.title cells m.metadata.browsers tags ignored).foldl addCase
          (if m.metadata.browsers = [] then m.cases else m.cases.filter (·.origin ≠ .browser))
        metadata :=
          ⟨m.metadata.entries ++
            ((distinct [] m.metadata.browsers).filter (browserKey · ∉ m.metadata.keys)).map
              fun id => (browserKey id, id)⟩ } := by
  by_cases h : m.metadata.browsers = []
  · have hnotes : m.metadata.noting m.metadata.browsers = m.metadata :=
      Metadata.noting_of_recorded _ _ fun id hid => absurd (h ▸ hid) List.not_mem_nil
    have hpush : m.setRow cells tags ignored =
        { m with cases := m.cases ++ [(RowArguments.ofRow cells tags ignored).toCase] } := by
      rw [setRow, if_pos h]
      rfl
    rw [← Metadata.noting, hnotes, hpush, expandRow, if_pos h, if_pos h]
    rfl
  · have hrow : ∀ c ∈ (distinct [] m.metadata.browsers).map
        (browserRowCase m.title (.ofRow cells tags ignored)), c.origin ≠ .row := by
      intro c hc
      obtain ⟨id, _, rfl⟩ := List.mem_map.mp hc
      exact browserCase_origin id _ _
    rw [setRow_targeted m h, expandRow, if_neg h, if_neg h, foldl_addCase _ _ hrow]
    rfl

/-! ### All rows again -/

/-- Adds example rows, in order. -/
def setRows (m : TestMethod) (rows : List ExampleRow) : TestMethod :=
  rows.foldl (fun m r => m.setRow r.cells r.tags r.ignored) m

theorem browsers_ne_nil (m : Metadata) (h : ∃ key ∈ m.keys, targetsBrowser key = true) :
    m.browsers ≠ [] := by
  obtain ⟨key, hkey, htargets⟩ := h
  obtain ⟨entry, hentry, rfl⟩ := List.mem_map.mp hkey
  refine List.ne_nil_of_mem (a := entry.2) ?_
  exact List.mem_map_of_mem (List.mem_filter.mpr ⟨hentry, htargets⟩)

theorem origin_of_mem_blocks (title : String) (browsers : List String) (rows : List ExampleRow)
    (c : TestCase) (h : c ∈ rows.flatMap (rowBlock title browsers)) : c.origin = .browserRow := by
  obtain ⟨r, _, hc⟩ := List.mem_flatMap.mp h
  exact origin_of_mem_rowBlock title browsers r c hc

/-- **Rows again.** If a method has a note under the key of a browser, adding all of some rows to it
a second time changes nothing: not its cases, nor their order, nor which of them are ignored, nor
its notes. -/
theorem setRows_twice (m : TestMethod) (h : ∃ key ∈ m.metadata.keys, targetsBrowser key = true)
    (rows : List ExampleRow) : (m.setRows rows).setRows rows = m.setRows rows := by
  have hne := browsers_ne_nil m.metadata h
  by_cases hrows : rows = []
  · rw [hrows]
    rfl
  let blocks := rows.flatMap (rowBlock m.title (distinct [] m.metadata.browsers))
  have horigin : ∀ c ∈ blocks, c.origin = .browserRow := origin_of_mem_blocks _ _ rows
  have honce : m.setRows rows = m.withRowCases blocks := foldl_setRow_targeted m hne rows hrows
  have hafter := afterRow_withRowCases m hne blocks horigin
  have hdistinct : distinct [] (m.withRowCases blocks).metadata.browsers =
      distinct [] m.metadata.browsers := Metadata.distinct_browsers_noting m.metadata
  have hagain : (m.withRowCases blocks).setRows rows =
      { m.withRowCases blocks with
        cases := addForBrowsers (m.withRowCases blocks).cases blocks } := by
    rw [setRows, hafter.foldl_setRow rows, hdistinct]
    rfl
  have hcases : addForBrowsers (m.withRowCases blocks).cases blocks =
      (m.withRowCases blocks).cases :=
    addForBrowsers_twice (fun c hc => horigin c hc ▸ by decide) _
  rw [honce, hagain, hcases]

/-- A method with cases of all origins, two of which pass the same arguments, and with notes in which
a browser stands twice, and under other keys than its own. -/
def journeyMethod : TestMethod :=
  { named "PlanAJourney" with
    cases :=
      [⟨[.text "a", .null], none, none, none, .row⟩,
        ⟨[.text "chrome"], none, some "chrome", some "PlanAJourney on chrome", .browser⟩,
        ⟨[.text "chrome", .text "a", .null], none, some "chrome", some "first", .browserRow⟩,
        ⟨[.text "chrome", .text "a", .null], none, some "chrome", some "second", .browserRow⟩]
    metadata := ⟨[("browser:default", "chrome"), ("owner", "qa"), ("Browsers", "firefox"),
      ("browser:other", "chrome")]⟩ }

/-- Rows of which some repeat others, with other tags or ignored or of another width. -/
def journeyRows : List ExampleRow :=
  [⟨["a"], [], true⟩, ⟨["a"], ["slow"], false⟩, ⟨["a", "b"], [], false⟩, ⟨["a"], [], false⟩,
    ⟨[], [], true⟩]

theorem setRows_twice_journey :
    (∃ key ∈ journeyMethod.metadata.keys, targetsBrowser key = true) ∧
      (journeyMethod.setRows journeyRows).setRows journeyRows =
        journeyMethod.setRows journeyRows := by
  have h : ∃ key ∈ journeyMethod.metadata.keys, targetsBrowser key = true :=
    ⟨"browser:default", by decide, by decide⟩
  exact ⟨h, setRows_twice journeyMethod h journeyRows⟩

end CrossBrowser.TestMethod
