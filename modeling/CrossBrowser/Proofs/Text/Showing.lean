import CrossBrowser.Proofs.Text.Difference
import CrossBrowser.Proofs.Text.Splitting

/-! What shows of a difference.

Each line that is shown has a mark in front, so it can be told which text it belongs to, and what is
shown can be read as either text. But a segment is shown as the lines of a text of its own: an empty
line at its end does not show, nor does a carriage return at the end of any line but the last
(`lines_intercalate_concat`). A text is read back exactly if all its segments show in full, and a
change shows exactly if it is more than one empty line (`shown_reads_iff`). -/
namespace CrossBrowser.Text

/-! ### Reading what is shown -/

/-- Whether a shown line has this mark. -/
def isMarked (mark : Char) (line : String) : Bool := line.toList.head? == some mark

/-- A shown line without its mark. -/
def unmarked (line : String) : String := String.ofList line.toList.tail

/-- The text that can be read from shown lines when those with one of the marks are left out. -/
def readWithout (mark : Char) (shown : List String) : List String :=
  (shown.filter (!isMarked mark ·)).map unmarked

/-- The old text as it can be read from shown lines. -/
def readBefore (shown : List String) : List String := readWithout '+' shown

/-- The new text as it can be read from shown lines. -/
def readAfter (shown : List String) : List String := readWithout '-' shown

namespace Segment

/-- The lines of a segment. -/
def lines : Segment → List String
  | .same lines | .removed lines | .added lines => lines

/-- The mark that the lines of a segment are shown with. -/
def mark : Segment → Char
  | .same _ => ' '
  | .removed _ => '-'
  | .added _ => '+'

/-- The lines of a segment that show. -/
def visible (s : Segment) : List String := Text.lines ("\n".intercalate s.lines)

/-- Whether a segment shows in full: there is no empty line at its end, and no carriage return at
the end of another line. -/
structure InFull (s : Segment) : Prop where
  last : s.lines.getLast? ≠ some ""
  returns : ∀ line ∈ s.lines.dropLast, line.toList.getLast? ≠ some '\r'

end Segment

/-! ### The lines of a segment that show -/

/-- A line without the carriage return at its end, if there is one. -/
def withoutReturn (line : String) : String := String.ofList (dropReturn line.toList)

/-- Lines that are put together and taken apart again: the last one goes if it is empty, and the
others lose their carriage returns. -/
theorem lines_intercalate_concat (init : List String) (last : String)
    (h : ∀ line ∈ init ++ [last], '\n' ∉ line.toList) :
    lines ("\n".intercalate (init ++ [last])) =
      init.map withoutReturn ++ if last = "" then [] else [last] := by
  have hsplit : ("\n".intercalate (init ++ [last])).toList.splitOn '\n' =
      init.map String.toList ++ [last.toList] := by
    rw [splitOn_intercalate rfl (by simp) h, List.map_append]
    rfl
  have hempty : last.toList = [] ↔ last = "" := String.toList_eq_nil_iff
  simp only [lines, lineLists, hsplit, List.dropLast_concat, List.getLast?_concat,
    Option.getD_some, List.map_append, List.map_map, hempty]
  split
  · rfl
  · simp [withoutReturn, Function.comp_def]

theorem withoutReturn_eq_iff (line : String) :
    withoutReturn line = line ↔ line.toList.getLast? ≠ some '\r' := by
  rw [withoutReturn, ← String.toList_inj, String.toList_ofList, dropReturn]
  split
  · next h =>
    refine iff_of_false (fun hdrop => ?_) (not_not.mpr h)
    have hlength := congrArg List.length hdrop
    have hne : line.toList ≠ [] := fun hnil => by rw [hnil] at h; cases h
    rw [List.length_dropLast] at hlength
    exact absurd hlength (Nat.ne_of_lt (Nat.sub_lt (List.length_pos_iff.mpr hne) Nat.one_pos))
  · next h => exact iff_of_true rfl h

section
variable {s : Segment} (h : ∀ line ∈ s.lines, '\n' ∉ line.toList)
include h

theorem visible_of_concat (init : List String) (last : String) (hlines : s.lines = init ++ [last]) :
    s.visible = init.map withoutReturn ++ if last = "" then [] else [last] := by
  rw [hlines] at h
  rw [Segment.visible, hlines, lines_intercalate_concat init last h]

theorem length_visible : s.visible.length ≤ s.lines.length := by
  rcases List.eq_nil_or_concat' s.lines with hnil | ⟨init, last, hlines⟩
  · rw [Segment.visible, hnil]
    exact Nat.zero_le _
  · rw [visible_of_concat h init last hlines, hlines]
    split <;> simp

/-- A segment shows in full or not exactly as it should. -/
theorem visible_eq_lines_iff : s.visible = s.lines ↔ s.InFull := by
  rcases List.eq_nil_or_concat' s.lines with hnil | ⟨init, last, hlines⟩
  · refine iff_of_true ?_ ⟨?_, ?_⟩
    · rw [Segment.visible, hnil]
      rfl
    · simp [hnil]
    · simp [hnil]
  · have hfull : s.InFull ↔ last ≠ "" ∧ ∀ line ∈ init, withoutReturn line = line := by
      simp only [withoutReturn_eq_iff]
      constructor
      · intro hs
        have hlast := hs.last
        have hreturns := hs.returns
        rw [hlines] at hlast hreturns
        simpa using And.intro hlast hreturns
      · rintro ⟨hlast, hreturns⟩
        refine ⟨?_, ?_⟩ <;> rw [hlines] <;> simpa
    rw [visible_of_concat h init last hlines, hfull, hlines]
    split
    · next hlast => simpa [hlast] using fun heq => by simpa using congrArg List.length heq
    · next hlast =>
      rw [List.append_cancel_right_eq, ← List.map_id init, List.map_map, List.map_inj_left]
      simp [hlast]

theorem visible_eq_nil_iff : s.visible = [] ↔ s.lines = [] ∨ s.lines = [""] := by
  rcases List.eq_nil_or_concat' s.lines with hnil | ⟨init, last, hlines⟩
  · refine iff_of_true ?_ (.inl hnil)
    rw [Segment.visible, hnil]
    rfl
  · rw [visible_of_concat h init last hlines, hlines]
    split
    · next hlast => simp [hlast]
    · next hlast => simp [hlast, List.append_eq_singleton_iff]

end

/-! ### What is read back -/

theorem shown_eq (s : Segment) : shown s = s.visible.map (String.singleton s.mark ++ ·) := by
  cases s <;> rfl

theorem isMarked_singleton (c mark : Char) (line : String) :
    isMarked c (String.singleton mark ++ line) = (mark == c) := by
  simp [isMarked]

theorem unmarked_singleton (mark : Char) (line : String) :
    unmarked (String.singleton mark ++ line) = line := by
  simp [unmarked]

theorem readWithout_shown (c : Char) (segments : List Segment) :
    readWithout c (segments.flatMap shown) =
      (segments.filter (·.mark ≠ c)).flatMap Segment.visible := by
  induction segments with
  | nil => rfl
  | cons s rest ih =>
    rw [readWithout, List.flatMap_cons, List.filter_append, List.map_append, ← readWithout,
      ← readWithout, ih, shown_eq, readWithout]
    by_cases hmark : s.mark = c
    · simp [hmark, isMarked_singleton, List.filter_map, Function.comp_def]
    · simp [hmark, isMarked_singleton, unmarked_singleton, List.filter_map, Function.comp_def]

theorem before_eq_flatMap (segments : List Segment) :
    before segments = (segments.filter (·.mark ≠ '+')).flatMap Segment.lines := by
  induction segments with
  | nil => rfl
  | cons s rest ih =>
    rw [before] at ih
    cases s <;> simp [before, ih, Segment.mark, Segment.lines]

theorem after_eq_flatMap (segments : List Segment) :
    after segments = (segments.filter (·.mark ≠ '-')).flatMap Segment.lines := by
  induction segments with
  | nil => rfl
  | cons s rest ih =>
    rw [after] at ih
    cases s <;> simp [after, ih, Segment.mark, Segment.lines]

theorem length_flatMap_le {α β : Type} {f g : α → List β} (xs : List α)
    (h : ∀ x ∈ xs, (f x).length ≤ (g x).length) :
    (xs.flatMap f).length ≤ (xs.flatMap g).length := by
  induction xs with
  | nil => exact Nat.le_refl 0
  | cons x rest ih =>
    rw [List.forall_mem_cons] at h
    rw [List.flatMap_cons, List.flatMap_cons, List.length_append, List.length_append]
    exact Nat.add_le_add h.1 (ih h.2)

/-- Lists put together from parts that are no longer are the same only if all parts are. -/
theorem flatMap_eq_iff {α β : Type} {f g : α → List β} (xs : List α)
    (h : ∀ x ∈ xs, (f x).length ≤ (g x).length) :
    xs.flatMap f = xs.flatMap g ↔ ∀ x ∈ xs, f x = g x := by
  refine ⟨fun heq => ?_, List.flatMap_congr⟩
  induction xs with
  | nil => exact fun x hx => absurd hx List.not_mem_nil
  | cons x rest ih =>
    rw [List.forall_mem_cons] at h
    have hrest := length_flatMap_le rest h.2
    have hlength := congrArg List.length heq
    rw [List.flatMap_cons, List.flatMap_cons] at heq
    simp only [List.flatMap_cons, List.length_append] at hlength
    have hfirst := h.1
    obtain ⟨hx, hothers⟩ := List.append_inj heq (by omega)
    rw [List.forall_mem_cons]
    exact ⟨hx, ih h.2 hothers⟩

/-- Parts that add nothing can be left out. -/
theorem flatMap_filter_of_nil {α β : Type} {f : α → List β} (p : α → Bool) (xs : List α)
    (h : ∀ x ∈ xs, p x = false → f x = []) : (xs.filter p).flatMap f = xs.flatMap f := by
  induction xs with
  | nil => rfl
  | cons x rest ih =>
    rw [List.forall_mem_cons] at h
    cases hx : p x with
    | true => rw [List.filter_cons_of_pos hx, List.flatMap_cons, List.flatMap_cons, ih h.2]
    | false =>
      rw [List.filter_cons_of_neg (by simp [hx]), List.flatMap_cons, h.1 hx, List.nil_append,
        ih h.2]

/-- What is read back is what was there exactly if the segments show in full. -/
theorem flatMap_visible_iff (segments : List Segment)
    (h : ∀ s ∈ segments, ∀ line ∈ s.lines, '\n' ∉ line.toList) :
    segments.flatMap Segment.visible = segments.flatMap Segment.lines ↔
      ∀ s ∈ segments, s.InFull := by
  rw [flatMap_eq_iff segments fun s hs => length_visible (h s hs)]
  exact forall₂_congr fun s hs => visible_eq_lines_iff (h s hs)

/-! ### The lines of a text -/

theorem newline_not_mem_linesToMerge (text line : String) (h : line ∈ linesToMerge text) :
    '\n' ∉ line.toList := by
  unfold linesToMerge at h
  split at h
  · cases h
  · obtain ⟨piece, hpiece, rfl⟩ := List.mem_map.mp h
    rw [String.toList_ofList]
    exact fun hmem => absurd (of_mem_splitOnP hpiece '\n' hmem) (by decide)

/-- A text is its lines with line feeds between them. -/
theorem intercalate_linesToMerge (text : String) :
    "\n".intercalate (linesToMerge text) = text := by
  unfold linesToMerge
  split
  · next h =>
    rw [h]
    rfl
  · rw [← String.toList_inj, String.toList_intercalate, pieces, List.map_map]
    simp [Function.comp_def]

theorem Separates.newline_not_mem {segments : List Segment} {old new : String}
    (h : Separates segments old new) (s : Segment) (hs : s ∈ segments) (line : String)
    (hline : line ∈ s.lines) : '\n' ∉ line.toList := by
  by_cases hmark : s.mark = '+'
  · refine newline_not_mem_linesToMerge new line ?_
    rw [← h.after_eq, after_eq_flatMap]
    refine List.mem_flatMap.mpr ⟨s, List.mem_filter.mpr ⟨hs, ?_⟩, hline⟩
    simp [hmark]
  · refine newline_not_mem_linesToMerge old line ?_
    rw [← h.before_eq, before_eq_flatMap]
    refine List.mem_flatMap.mpr ⟨s, List.mem_filter.mpr ⟨hs, ?_⟩, hline⟩
    simp [hmark]

/-! ### What a difference shows -/

/-- Texts that differ have a change somewhere. -/
theorem Separates.exists_change {segments : List Segment} {old new : String}
    (h : Separates segments old new) (hne : old ≠ new) :
    ∃ s ∈ segments, s.mark ≠ ' ' ∧ s.lines ≠ [] := by
  by_contra hnone
  have hkept : ∀ c : Char, c ≠ ' ' →
      (segments.filter (·.mark ≠ c)).flatMap Segment.lines = segments.flatMap Segment.lines := by
    intro c hc
    refine flatMap_filter_of_nil _ segments fun s hs hmark => ?_
    by_contra hlines
    have hmark : s.mark = c := by simpa using hmark
    exact hnone ⟨s, hs, hmark ▸ hc, hlines⟩
  refine hne ?_
  rw [← intercalate_linesToMerge old, ← intercalate_linesToMerge new, ← h.before_eq, ← h.after_eq,
    before_eq_flatMap, after_eq_flatMap, hkept _ (by decide), hkept _ (by decide)]

theorem mark_ne_same_iff (s : Segment) : s.mark ≠ ' ' ↔ s.mark = '+' ∨ s.mark = '-' := by
  cases s <;> simp [Segment.mark]

/-- A change shows if any line of it does. -/
theorem exists_isMarked_iff (segments : List Segment) :
    (∃ line ∈ segments.flatMap shown, isMarked '+' line = true ∨ isMarked '-' line = true) ↔
      ∃ s ∈ segments, s.mark ≠ ' ' ∧ s.visible ≠ [] := by
  constructor
  · rintro ⟨line, hline, hmarked⟩
    obtain ⟨s, hs, hshown⟩ := List.mem_flatMap.mp hline
    rw [shown_eq] at hshown
    obtain ⟨text, htext, rfl⟩ := List.mem_map.mp hshown
    simp only [isMarked_singleton, beq_iff_eq] at hmarked
    exact ⟨s, hs, (mark_ne_same_iff s).mpr hmarked, List.ne_nil_of_mem htext⟩
  · rintro ⟨s, hs, hmark, hvisible⟩
    obtain ⟨text, htext⟩ := List.exists_mem_of_ne_nil _ hvisible
    refine ⟨String.singleton s.mark ++ text, List.mem_flatMap.mpr ⟨s, hs, ?_⟩, ?_⟩
    · rw [shown_eq]
      exact List.mem_map_of_mem htext
    · simpa only [isMarked_singleton, beq_iff_eq] using (mark_ne_same_iff s).mp hmark

/-- **What a difference shows.** Of segments that tell two texts apart, what shows is read as the
old text exactly if all segments with lines of it show in full, and in the same way as the new text.
A change shows exactly if it is more than one empty line; and between texts that differ there is
one. -/
theorem shown_reads_iff {segments : List Segment} {old new : String}
    (h : Separates segments old new) :
    (readBefore (segments.flatMap shown) = linesToMerge old ↔
        ∀ s ∈ segments, s.mark ≠ '+' → s.InFull) ∧
      (readAfter (segments.flatMap shown) = linesToMerge new ↔
        ∀ s ∈ segments, s.mark ≠ '-' → s.InFull) ∧
      ((∃ line ∈ segments.flatMap shown, isMarked '+' line = true ∨ isMarked '-' line = true) ↔
        ∃ s ∈ segments, s.mark ≠ ' ' ∧ s.lines ≠ [] ∧ s.lines ≠ [""]) ∧
      (old ≠ new → ∃ s ∈ segments, s.mark ≠ ' ' ∧ s.lines ≠ []) := by
  have hside : ∀ c : Char, (segments.filter (·.mark ≠ c)).flatMap Segment.visible =
      (segments.filter (·.mark ≠ c)).flatMap Segment.lines ↔
        ∀ s ∈ segments, s.mark ≠ c → s.InFull := by
    intro c
    rw [flatMap_visible_iff _ fun s hs => h.newline_not_mem s (List.mem_filter.mp hs).1]
    simp
  refine ⟨?_, ?_, ?_, h.exists_change⟩
  · rw [readBefore, readWithout_shown, ← h.before_eq, before_eq_flatMap, hside]
  · rw [readAfter, readWithout_shown, ← h.after_eq, after_eq_flatMap, hside]
  · rw [exists_isMarked_iff]
    refine exists_congr fun s => and_congr_right fun hs => and_congr_right fun _ => ?_
    rw [Ne, visible_eq_nil_iff (h.newline_not_mem s hs), not_or]

/-- A line feed that is missing at the end of a text does not show. -/
theorem shown_reads_iff_unended :
    Separates (difference "a" "a\n") "a" "a\n" ∧
      (¬∃ line ∈ showDifference "a" "a\n", isMarked '+' line = true ∨ isMarked '-' line = true) ∧
      readAfter (showDifference "a" "a\n") ≠ linesToMerge "a\n" := by
  have h := separates_difference "a" "a\n"
  have hsegments : difference "a" "a\n" = [.same ["a"], .added [""]] := by decide +kernel
  obtain ⟨_, hafter, hchange, _⟩ := shown_reads_iff h
  refine ⟨h, ?_, ?_⟩
  · rw [showDifference, hchange, hsegments]
    simp [Segment.mark, Segment.lines]
  · rw [showDifference, Ne, hafter, hsegments]
    intro hfull
    have hadded := hfull (.added [""]) (by simp) (by decide)
    exact hadded.last rfl

end CrossBrowser.Text
