import CrossBrowser.Expansion.Fanout
import CrossBrowser.Proofs.Text.Telling
import CrossBrowser.Proofs.Text.Trimming
import Mathlib.Data.List.Induction

/-! The names of cases for rows.

The name is put together with a separator after each cell, of which the last one is trimmed off
again. The trims stop at the quote after the last cell, or at the colon if there are no cells, so
nothing of a title, a label or a cell is lost (`rowCaseName_eq`). Quotes in cells are written as
they are, so cells can be told from a name only if there are none in them (`rowText_inj`). -/
namespace CrossBrowser

/-- A cell in quotes. -/
def quoted (cell : String) : String := "\"" ++ cell ++ "\""

/-- What the name of a case says of its row, after the title and the browser. -/
def rowText (cells : List String) : String :=
  if cells = [] then " with:" else " with: " ++ " ,".intercalate (cells.map quoted)

/-! ### Cells in a name -/

theorem namedCell_eq (cell : String) : namedCell cell = quoted cell ++ " ," := by
  have hend : "\" ," = "\"" ++ " ," := rfl
  rw [namedCell, quoted, hend, ← String.append_assoc]

/-- Cells with separators between them are all but the last with a separator after them, and the
last. -/
theorem intercalate_quoted (init : List String) (last : String) :
    " ,".intercalate ((init ++ [last]).map quoted) =
      String.join (init.map namedCell) ++ quoted last := by
  induction init with
  | nil => simp
  | cons cell rest ih =>
    obtain ⟨next, others, hnext⟩ : ∃ next others, (rest ++ [last]).map quoted = next :: others :=
      List.exists_cons_of_ne_nil (by simp)
    rw [List.cons_append, List.map_cons, hnext, String.intercalate_cons_cons, ← hnext, ih,
      List.map_cons, String.join_cons, namedCell_eq]
    simp only [String.append_assoc]

theorem join_namedCell_concat (init : List String) (last : String) :
    String.join ((init ++ [last]).map namedCell) =
      String.join (init.map namedCell) ++ quoted last ++ " ," := by
  rw [List.map_append, String.join_append, List.map_singleton, namedCell_eq, String.join_cons,
    String.join_nil, String.append_empty, String.append_assoc]

theorem getLast?_quoted (s cell : String) : (s ++ quoted cell).toList.getLast? = some '"' := by
  rw [quoted, ← String.append_assoc, String.toList_append]
  exact List.getLast?_concat

/-- **The name of a case for a row** is the name of a case for the browser alone, followed by the
cells in quotes. Nothing that they begin or end with is lost. -/
theorem rowCaseName_eq (title label : String) (cells : List String) :
    rowCaseName title label cells = browserCaseName title label ++ rowText cells := by
  unfold rowCaseName rowText
  rcases List.eq_nil_or_concat' cells with rfl | ⟨init, last, rfl⟩
  -- Without cells the blank after the colon goes.
  · have hcolon : (browserCaseName title label ++ " with:").toList.getLast? = some ':' := by
      rw [String.toList_append]
      exact List.getLast?_append_of_ne_nil _ (by decide)
    have hnone : Text.trimEnd (fun c => c == ' ' || c == ',')
        (String.join (([] : List String).map namedCell)) = "" := rfl
    have htext : browserCaseName title label ++ " with: " ++ "" =
        browserCaseName title label ++ " with:" ++ " " := by
      rw [String.append_empty, String.append_assoc]
      rfl
    rw [hnone, if_pos rfl]
    show Text.trimEnd Text.isBlank (browserCaseName title label ++ " with: " ++ "") = _
    rw [htext, Text.trimEnd_append _ hcolon (by decide) (by decide)]
  -- Otherwise the separator after the last cell goes, and the quote before it stays.
  · have hlast := getLast?_quoted (String.join (init.map namedCell)) last
    have hseparator : " ,".toList.all (fun c => c == ' ' || c == ',') = true := by decide
    have htrim := Text.trimEnd_append _ hlast (by decide) hseparator
    have hquote := getLast?_quoted
      (browserCaseName title label ++ " with: " ++ String.join (init.map namedCell)) last
    rw [join_namedCell_concat, htrim, if_neg (by simp), intercalate_quoted]
    show Text.trimEnd Text.isBlank (browserCaseName title label ++ " with: " ++
      (String.join (init.map namedCell) ++ quoted last)) = _
    rw [← String.append_assoc, Text.trimEnd_of_last _ hquote (by decide)]
    simp only [String.append_assoc]

/-- **The name of a case for a row, in full.** Each cell is in quotes, and a blank and a comma stand
between two of them. Blanks and commas that a title, a label or a cell ends in stay, and so does a
cell that is empty. Without cells the name ends in the colon. -/
theorem rowCaseName_exact (title label : String) :
    (∀ first rest, rowCaseName title label (first :: rest) =
      title ++ " on " ++ label ++ " with: " ++ " ,".intercalate ((first :: rest).map quoted)) ∧
      rowCaseName title label [] = title ++ " on " ++ label ++ " with:" := by
  constructor
  · intro first rest
    rw [rowCaseName_eq, browserCaseName, rowText, if_neg (List.cons_ne_nil first rest)]
    simp only [String.append_assoc]
  · rw [rowCaseName_eq, browserCaseName, rowText, if_pos rfl]

example : rowCaseName "Plan a trip ," "chrome" ["Bath ,", "", " "] =
    "Plan a trip , on chrome with: \"Bath ,\" ,\"\" ,\" \"" := by decide +kernel

/-! ### What a name tells of its row -/

theorem rowText_append (cells : List String) (h : cells ≠ []) :
    rowText cells ++ " ," = " with: " ++ String.join (cells.map namedCell) := by
  obtain ⟨init, last, rfl⟩ := (List.eq_nil_or_concat' cells).resolve_left h
  rw [rowText, if_neg h, intercalate_quoted, join_namedCell_concat]
  simp only [String.append_assoc]

/-- As many cells without quotes in them, with something in front, tell what they are and what is in
front. They are read from the last to the first. -/
theorem join_namedCell_inj (front front' : String) (cells cells' : List String)
    (hlength : cells.length = cells'.length) (hcells : ∀ cell ∈ cells, '"' ∉ cell.toList)
    (hcells' : ∀ cell ∈ cells', '"' ∉ cell.toList)
    (h : front ++ String.join (cells.map namedCell) =
      front' ++ String.join (cells'.map namedCell)) : front = front' ∧ cells = cells' := by
  induction cells using List.reverseRecOn generalizing cells' with
  | nil =>
    obtain rfl := List.length_eq_zero_iff.mp hlength.symm
    exact ⟨(String.append_left_inj _).mp h, rfl⟩
  | append_singleton init last ih =>
    rcases List.eq_nil_or_concat' cells' with rfl | ⟨init', last', rfl⟩
    · rw [List.length_append] at hlength
      cases hlength
    · have hconcat : ∀ (front : String) (init : List String) (last : String),
          (front ++ String.join ((init ++ [last]).map namedCell)).toList =
            ((front ++ String.join (init.map namedCell)).toList ++ '"' :: last.toList) ++
              "\" ,".toList := by
        intro front init last
        rw [join_namedCell_concat, quoted]
        simp [String.toList_append]
      have hlist := congrArg String.toList h
      rw [hconcat, hconcat] at hlist
      obtain ⟨hfront, hlast⟩ := Text.append_last_stop_inj '"'
        (hcells last (List.mem_append_right _ List.mem_cons_self))
        (hcells' last' (List.mem_append_right _ List.mem_cons_self))
        (List.append_cancel_right hlist)
      obtain ⟨rfl, rfl⟩ := ih init' (by simpa using hlength)
        (fun cell hcell => hcells cell (List.mem_append_left _ hcell))
        (fun cell hcell => hcells' cell (List.mem_append_left _ hcell))
        (String.toList_inj.mp hfront)
      exact ⟨rfl, by rw [String.toList_inj.mp hlast]⟩

/-- What the names of cases for rows of one width say after the title tells the label and the cells,
if there are no quotes in the cells. -/
theorem rowText_inj (label label' : String) (cells cells' : List String)
    (hlength : cells.length = cells'.length) (hcells : ∀ cell ∈ cells, '"' ∉ cell.toList)
    (hcells' : ∀ cell ∈ cells', '"' ∉ cell.toList)
    (h : label ++ rowText cells = label' ++ rowText cells') : label = label' ∧ cells = cells' := by
  by_cases hnil : cells = []
  · obtain rfl : cells' = [] := by
      rwa [hnil, eq_comm, List.length_nil, List.length_eq_zero_iff] at hlength
    rw [hnil] at h
    exact ⟨(String.append_left_inj _).mp h, hnil⟩
  · have hnil' : cells' ≠ [] := by
      rintro rfl
      exact hnil (List.length_eq_zero_iff.mp hlength)
    have hjoin := congrArg (· ++ " ,") h
    simp only [String.append_assoc, rowText_append cells hnil, rowText_append cells' hnil'] at hjoin
    rw [← String.append_assoc, ← String.append_assoc] at hjoin
    obtain ⟨hlabel, hsame⟩ := join_namedCell_inj _ _ cells cells' hlength hcells hcells' hjoin
    exact ⟨(String.append_left_inj _).mp hlabel, hsame⟩

end CrossBrowser
