import CrossBrowser.Proofs.Expansion.Distinct

/-! One row on several browsers.

A row that is spread over browsers gives one case for each distinct browser, and the cases differ in
nothing but what tells the browser (`TestCase.withoutBrowser`). Browsers that come after others add
the cases that they alone would give, less those of the browsers that have come before
(`expandRow_append`), so the whole list may be taken in any number of parts. -/
namespace CrossBrowser

/-- What is left of a case without what tells its browser: the first argument, the category and the
name. -/
def TestCase.withoutBrowser (c : TestCase) : TestCase :=
  { c with arguments := c.arguments.tail, category := none, name := none }

/-- The browser that a case is made for, which is its first argument. -/
def TestCase.browser? (c : TestCase) : Option String :=
  match c.origin, c.arguments with
  | .row, _ => none
  | _, .text id :: _ => some id
  | _, _ => none

variable (title : String) (cells tags : List String) (ignored : Bool)

theorem expandRow_of_browsers {browsers : List String} (h : browsers ≠ []) :
    expandRow title cells browsers tags ignored =
      browsers.eraseDups.map (browserRowCase title (.ofRow cells tags ignored)) := by
  rw [expandRow, if_neg h, distinct_eq_eraseDups, List.filter_eq_self.mpr fun _ _ => by simp]

theorem withoutBrowser_browserRowCase (row : RowArguments) (id : String) :
    (browserRowCase title row id).withoutBrowser =
      { arguments := row.arguments, ignoreReason := row.ignoreReason, category := none, name := none
        origin := .browserRow } := rfl

/-- More browsers add the cases that they give without the others, less those of browsers that are
among the others. -/
theorem expandRow_append {browsers : List String} (h : browsers ≠ []) (more : List String) :
    expandRow title cells (browsers ++ more) tags ignored =
      expandRow title cells browsers tags ignored ++
        (expandRow title cells more tags ignored).filter fun c =>
          c.browser?.any (· ∉ browsers) := by
  by_cases hmore : more = []
  · subst hmore
    -- Without browsers there is a case of the row alone, which is for none of them.
    rw [List.append_nil]
    exact (List.append_nil _).symm
  · have hadded : ((distinct [] more).map (browserRowCase title (.ofRow cells tags ignored))).filter
        (fun c => c.browser?.any (· ∉ browsers)) =
        (distinct browsers more).map (browserRowCase title (.ofRow cells tags ignored)) := by
      rw [List.filter_map, distinct_eq_filter browsers more]
      rfl
    rw [expandRow, if_neg (List.append_ne_nil_of_left_ne_nil h more), distinct_append,
      List.nil_append, List.map_append, expandRow, if_neg h, expandRow, if_neg hmore, hadded]

/-- **A row on browsers.** There is one case for each distinct browser, in the order in which the
browsers first occur, and its arguments are the browser, the cells and the tags, with `null` for no
tags. What is left of the cases without what tells the browser is the same for all, and they have a
reason not to run exactly if the row is ignored. The cases for a longer list begin with these, and go
on with those of the browsers that are new. -/
theorem expandRow_eraseDups (browsers : List String) (h : browsers ≠ []) :
    let cases := expandRow title cells browsers tags ignored
    cases.map (·.arguments) = browsers.eraseDups.map (fun id =>
        .text id :: (cells.map .text ++ [if tags = [] then .null else .texts tags])) ∧
      (∀ c ∈ cases, ∀ d ∈ cases, c.withoutBrowser = d.withoutBrowser) ∧
      (∀ c ∈ cases, c.ignoreReason.isSome = ignored) ∧
      ∀ more, expandRow title cells (browsers ++ more) tags ignored =
        cases ++ (expandRow title cells more tags ignored).filter fun c =>
          c.browser?.any (· ∉ browsers) := by
  intro cases
  have hcases : cases = _ := expandRow_of_browsers title cells tags ignored h
  refine ⟨?_, fun c hc d hd => ?_, fun c hc => ?_, expandRow_append title cells tags ignored h⟩
  · rw [hcases, List.map_map]
    rfl
  · rw [hcases] at hc hd
    obtain ⟨id, _, rfl⟩ := List.mem_map.mp hc
    obtain ⟨id', _, rfl⟩ := List.mem_map.mp hd
    rw [withoutBrowser_browserRowCase, withoutBrowser_browserRowCase]
  · rw [hcases] at hc
    obtain ⟨id, _, rfl⟩ := List.mem_map.mp hc
    cases ignored <;> rfl

theorem expandRow_eraseDups_repeated :
    let browsers := ["chrome", "firefox", "chrome"]
    let cases := expandRow "Plan a journey" ["London"] browsers [] true
    browsers ≠ [] ∧
      cases.map (·.arguments) =
        [[.text "chrome", .text "London", .null], [.text "firefox", .text "London", .null]] ∧
      (∀ c ∈ cases, ∀ d ∈ cases, c.withoutBrowser = d.withoutBrowser) ∧
      (∀ c ∈ cases, c.ignoreReason.isSome = true) ∧
      expandRow "Plan a journey" ["London"] (browsers ++ ["firefox", "safari"]) [] true =
        cases ++ (expandRow "Plan a journey" ["London"] ["firefox", "safari"] [] true).filter
          fun c => c.browser?.any (· ∉ browsers) := by
  intro browsers cases
  have h : browsers ≠ [] := by decide
  obtain ⟨harguments, hsame, hignored, happend⟩ :=
    expandRow_eraseDups "Plan a journey" ["London"] [] true browsers h
  exact ⟨h, harguments.trans (by decide), hsame, hignored, happend ["firefox", "safari"]⟩

end CrossBrowser
