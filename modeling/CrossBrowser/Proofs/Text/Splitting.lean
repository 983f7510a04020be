import CrossBrowser.Text.Lines
import Mathlib.Data.List.Basic

/-! The pieces of a list that is split, and the lines of a text.

Texts put together with a separator between them are split again into the same texts, if the
separator is a character that none of them has (`splitOn_intercalate`). -/
namespace CrossBrowser.Text
variable {α : Type} {p : α → Bool}

/-- The pieces put together are the list without the elements at which it is split. -/
theorem flatten_splitOnP (xs : List α) : (xs.splitOnP p).flatten = xs.filter (!p ·) := by
  induction xs with
  | nil => rw [List.splitOnP_nil]; rfl
  | cons x rest ih =>
    rw [List.splitOnP_cons_eq_if_modifyHead]
    by_cases hx : p x = true
    · simpa [hx] using ih
    · obtain ⟨first, others, hsplit⟩ := List.exists_cons_of_ne_nil (List.splitOnP_ne_nil p rest)
      rw [hsplit, List.flatten_cons] at ih
      simp [hx, hsplit, ← ih]

/-- The pieces have no element at which the list is split, and none that is not in the list. -/
theorem mem_filter_of_mem_splitOnP {xs l : List α} (h : l ∈ xs.splitOnP p) {x : α} (hx : x ∈ l) :
    x ∈ xs.filter (!p ·) :=
  flatten_splitOnP xs ▸ List.mem_flatten.mpr ⟨l, h, hx⟩

theorem of_mem_splitOnP {xs l : List α} (h : l ∈ xs.splitOnP p) : ∀ x ∈ l, p x = false := by
  intro x hx
  simpa using (List.mem_filter.mp (mem_filter_of_mem_splitOnP h hx)).2

theorem mem_of_mem_splitOnP {xs l : List α} (h : l ∈ xs.splitOnP p) : ∀ x ∈ l, x ∈ xs :=
  fun _ hx => List.mem_of_mem_filter (mem_filter_of_mem_splitOnP h hx)

/-- A list is split where its image is. -/
theorem splitOnP_map {β : Type} (f : α → β) (q : β → Bool) (xs : List α) :
    (xs.map f).splitOnP q = (xs.splitOnP (q ∘ f)).map (List.map f) := by
  induction xs with
  | nil => rfl
  | cons x rest ih =>
    obtain ⟨first, others, hsplit⟩ := List.exists_cons_of_ne_nil (List.splitOnP_ne_nil (q ∘ f) rest)
    rw [List.map_cons, List.splitOnP_cons_eq_if_modifyHead, List.splitOnP_cons_eq_if_modifyHead, ih,
      hsplit]
    by_cases hx : q (f x) = true <;> simp [hx]

/-! ### Texts with separators between them -/

theorem not_mem_intercalate {c : Char} {separator : String} {texts : List String}
    (hs : c ∉ separator.toList) (h : ∀ text ∈ texts, c ∉ text.toList) :
    c ∉ (separator.intercalate texts).toList := by
  induction texts with
  | nil => exact List.not_mem_nil
  | cons text rest ih =>
    cases rest with
    | nil =>
      rw [String.intercalate_singleton]
      exact h text List.mem_cons_self
    | cons next others =>
      rw [String.intercalate_cons_cons, String.toList_append, String.toList_append,
        List.append_assoc, List.mem_append, List.mem_append]
      rintro (hmem | hmem | hmem)
      · exact h text List.mem_cons_self hmem
      · exact hs hmem
      · exact ih (fun later hlater => h later (List.mem_cons_of_mem text hlater)) hmem

theorem splitOn_intercalate {c : Char} {separator : String} {texts : List String}
    (hs : separator.toList = [c]) (hne : texts ≠ []) (h : ∀ text ∈ texts, c ∉ text.toList) :
    (separator.intercalate texts).toList.splitOn c = texts.map String.toList := by
  rw [String.toList_intercalate, hs]
  refine List.splitOn_intercalate c ?_ (mt List.map_eq_nil_iff.mp hne)
  rw [List.forall_mem_map]
  exact h

/-! ### Lines -/

theorem dropReturn_of_not_mem {line : List Char} (h : '\r' ∉ line) : dropReturn line = line :=
  if_neg fun hlast => h (List.mem_of_getLast? hlast)

/-- A line is a piece between two line feeds, apart from the return at its end. -/
theorem exists_of_mem_lineLists {cs line : List Char} (h : line ∈ lineLists cs) :
    ∃ piece ∈ cs.splitOn '\n', line = dropReturn piece ∨ line = piece := by
  rcases List.mem_append.mp h with h | h
  · obtain ⟨piece, hpiece, rfl⟩ := List.mem_map.mp h
    exact ⟨piece, List.dropLast_subset _ hpiece, .inl rfl⟩
  · split at h
    · cases h
    · next hne =>
      refine ⟨line, ?_, .inr rfl⟩
      rw [List.mem_singleton.mp h]
      cases hlast : (cs.splitOn '\n').getLast? with
      | none => exact absurd (by rw [hlast]; rfl) hne
      | some last => exact List.mem_of_getLast? hlast

/-- The lines of lines put together are among them, if no line is broken or ends in a return. -/
theorem mem_of_mem_lines {ls : List String} (h : ∀ l ∈ ls, '\n' ∉ l.toList ∧ '\r' ∉ l.toList)
    {line : String} (hline : line ∈ lines ("\n".intercalate ls)) : line ∈ ls := by
  by_cases hls : ls = []
  · subst hls
    cases hline
  · have hsplit : ("\n".intercalate ls).toList.splitOn '\n' = ls.map String.toList :=
      splitOn_intercalate rfl hls fun l hl => (h l hl).1
    obtain ⟨cs, hcs, rfl⟩ := List.mem_map.mp hline
    obtain ⟨piece, hpiece, hcs⟩ := exists_of_mem_lineLists hcs
    rw [hsplit] at hpiece
    obtain ⟨l, hl, rfl⟩ := List.mem_map.mp hpiece
    have hsame : cs = l.toList := by rwa [dropReturn_of_not_mem (h l hl).2, or_self] at hcs
    rwa [hsame, String.ofList_toList]

end CrossBrowser.Text
