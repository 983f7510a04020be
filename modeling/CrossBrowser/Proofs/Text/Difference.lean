import CrossBrowser.Text.Difference
import Mathlib.Data.List.TakeWhile

/-! What tells two texts apart.

The walk through the table takes lines that both texts have, in their order, whatever the numbers in
the table are (`walk_sublist`). Cut along lines in common, two lists of lines are used up to their
ends, so the segments have every line of either text, in order (`separates_difference`). -/
namespace CrossBrowser.Text

/-- Segments that tell two texts apart: together they have all lines of either text, in order. -/
structure Separates (segments : List Segment) (old new : String) : Prop where
  before_eq : before segments = linesToMerge old
  after_eq : after segments = linesToMerge new

/-! ### Lines in common -/

/-- The lines found on a walk are among those left of either list, in their order. -/
theorem walk_sublist (t : Array (Array Nat)) (old new : List String) (fuel i j : Nat)
    (hi : i ≤ old.length) (hj : j ≤ new.length) :
    (walk t old.toArray new.toArray fuel i j).reverse.Sublist (old.take i) ∧
      (walk t old.toArray new.toArray fuel i j).reverse.Sublist (new.take j) := by
  induction fuel generalizing i j with
  | zero => exact ⟨List.nil_sublist _, List.nil_sublist _⟩
  | succ fuel ih =>
    cases i with
    | zero => exact ⟨List.nil_sublist _, List.nil_sublist _⟩
    | succ i =>
      cases j with
      | zero => exact ⟨List.nil_sublist _, List.nil_sublist _⟩
      | succ j =>
        have hold : old.take (i + 1) = old.take i ++ [old.toArray.getD i ""] := by
          rw [List.take_succ_eq_append_getElem hi]
          simp [Array.getD, Nat.lt_of_succ_le hi]
        have hnew : new.take (j + 1) = new.take j ++ [new.toArray.getD j ""] := by
          rw [List.take_succ_eq_append_getElem hj]
          simp [Array.getD, Nat.lt_of_succ_le hj]
        rw [walk]
        split
        · next hline =>
          obtain ⟨hfirst, hsecond⟩ := ih i j (Nat.le_of_succ_le hi) (Nat.le_of_succ_le hj)
          rw [List.reverse_cons, hold, hnew, ← hline]
          exact ⟨hfirst.append_right _, hsecond.append_right _⟩
        · split
          · obtain ⟨hfirst, hsecond⟩ := ih (i + 1) j hi (Nat.le_of_succ_le hj)
            exact ⟨hfirst, hsecond.trans (List.take_sublist_take_left (Nat.le_succ j))⟩
          · obtain ⟨hfirst, hsecond⟩ := ih i (j + 1) (Nat.le_of_succ_le hi) hj
            exact ⟨hfirst.trans (List.take_sublist_take_left (Nat.le_succ i)), hsecond⟩

theorem commonLines_sublist (old new : List String) :
    (commonLines old new).Sublist old ∧ (commonLines old new).Sublist new := by
  have h := walk_sublist (table old new) old new (old.length + new.length) old.length new.length
    (Nat.le_refl _) (Nat.le_refl _)
  rwa [List.take_length, List.take_length] at h

/-! ### Segments along lines in common -/

theorem agreeing_prefix (xs ys zs : List String) :
    agreeing xs ys zs <+: xs ∧ agreeing xs ys zs <+: ys ∧ agreeing xs ys zs <+: zs := by
  fun_induction agreeing xs ys zs with
  | case1 x xs y ys z zs h ih =>
    obtain ⟨rfl, rfl⟩ := h
    exact ⟨List.prefix_cons_inj x |>.mpr ih.1, List.prefix_cons_inj x |>.mpr ih.2.1,
      List.prefix_cons_inj x |>.mpr ih.2.2⟩
  | case2 => exact ⟨List.nil_prefix, List.nil_prefix, List.nil_prefix⟩
  | case3 => exact ⟨List.nil_prefix, List.nil_prefix, List.nil_prefix⟩

theorem missing_append_drop (common lines : List String) :
    missing common lines ++ lines.drop (missing common lines).length = lines :=
  List.prefix_iff_eq_append.mp (List.takeWhile_prefix _)

/-- What is left of a list after the lines that are not in common still has those in common. -/
theorem sublist_drop_missing (common lines : List String) (h : common.Sublist lines) :
    common.Sublist (lines.drop (missing common lines).length) := by
  induction lines with
  | nil => simpa [missing] using h
  | cons line rest ih =>
    by_cases hhead : common.head? = some line
    · have hnone : missing common (line :: rest) = [] := by simp [missing, hhead]
      rw [hnone]
      exact h
    · have hmore : missing common (line :: rest) = line :: missing common rest := by
        simp [missing, hhead]
      rw [hmore, List.length_cons, List.drop_succ_cons]
      refine ih ?_
      cases h with
      | cons _ h => exact h
      | cons_cons _ h => exact absurd rfl hhead

/-- Where the lines do not agree, one of the lists begins with a line that is not in common. -/
theorem missing_of_agreeing (old new common : List String) (h : ¬(old = [] ∧ new = []))
    (hold : common.Sublist old) (hnew : common.Sublist new) (hboth : agreeing old new common = []) :
    missing common old ≠ [] ∨ missing common new ≠ [] := by
  cases common with
  | nil =>
    have hall : ∀ lines, missing [] lines = lines := fun lines =>
      List.takeWhile_eq_self_iff.mpr fun _ _ => rfl
    rw [hall, hall]
    exact not_and_or.mp h
  | cons c cs =>
    cases old with
    | nil => cases hold
    | cons x xs =>
      cases new with
      | nil => cases hnew
      | cons y ys =>
        by_cases hx : c = x
        · by_cases hy : c = y
          · simp [agreeing, ← hx, ← hy] at hboth
          · exact .inr (by simp [missing, hy])
        · exact .inl (by simp [missing, hx])

theorem before_concat (xs ys : List Segment) : before (xs ++ ys) = before xs ++ before ys :=
  List.flatMap_append

theorem after_concat (xs ys : List Segment) : after (xs ++ ys) = after xs ++ after ys :=
  List.flatMap_append

theorem before_segment (lines : List String) :
    before (segment .same lines) = lines ∧ before (segment .removed lines) = lines ∧
      before (segment .added lines) = [] := by
  unfold segment
  split
  · next h => simp [h, before]
  · simp [before]

theorem after_segment (lines : List String) :
    after (segment .same lines) = lines ∧ after (segment .removed lines) = [] ∧
      after (segment .added lines) = lines := by
  unfold segment
  split
  · next h => simp [h, after]
  · simp [after]

/-- Along lines in common, the segments go through both lists to their ends. Each round uses up a
line of one of them. -/
theorem segments_separate (fuel : Nat) (old new common : List String)
    (hold : common.Sublist old) (hnew : common.Sublist new)
    (hfuel : old.length + new.length < fuel) :
    before (segments fuel old new common) = old ∧ after (segments fuel old new common) = new := by
  induction fuel generalizing old new common with
  | zero => exact absurd hfuel (Nat.not_lt_zero _)
  | succ fuel ih =>
    by_cases h : old = [] ∧ new = []
    · rw [segments, if_pos h, h.1, h.2]
      exact ⟨rfl, rfl⟩
    · rw [segments, if_neg h]
      have hadvance := missing_of_agreeing old new common h hold hnew
      obtain ⟨⟨old', hold'⟩, ⟨new', hnew'⟩, ⟨common', hcommon'⟩⟩ :=
        agreeing_prefix old new common
      generalize agreeing old new common = both at hadvance hold' hnew' hcommon' ⊢
      subst hold' hnew' hcommon'
      rw [List.append_sublist_append_left] at hold hnew
      have holdRest := missing_append_drop common' old'
      have hnewRest := missing_append_drop common' new'
      have hlater : (old'.drop (missing common' old').length).length +
          (new'.drop (missing common' new').length).length < fuel := by
        have hused : both ≠ [] ∨ missing common' old' ≠ [] ∨ missing common' new' ≠ [] :=
          or_iff_not_imp_left.mpr fun hboth => by
            simpa [not_not.mp hboth] using hadvance (not_not.mp hboth)
        simp only [← List.length_pos_iff] at hused
        have holdLength := congrArg List.length holdRest
        have hnewLength := congrArg List.length hnewRest
        simp only [List.length_append] at hfuel holdLength hnewLength
        omega
      obtain ⟨hbefore, hafter⟩ := ih _ _ _ (sublist_drop_missing common' old' hold)
        (sublist_drop_missing common' new' hnew) hlater
      simp only [List.drop_left, before_concat, after_concat, before_segment, after_segment,
        hbefore, hafter, List.nil_append, List.append_assoc, holdRest, hnewRest, and_self]

/-! ### The difference of two texts -/

/-- The lines in common, where one empty line counts for nothing, are among the lines of either
text. -/
theorem common_sublist_linesToMerge (s : String) (common : List String)
    (h : common.Sublist (pieces s)) :
    (if common = [""] then [] else common).Sublist (linesToMerge s) := by
  unfold linesToMerge
  split
  · exact List.nil_sublist _
  · next hcommon =>
    split
    · next hs =>
      rw [hs] at h
      have hempty : common.Sublist [""] := h
      cases hempty with
      | cons _ h => exact h
      | cons_cons _ h => exact absurd (by rw [List.sublist_nil.mp h]) hcommon
    · exact h

theorem separates_difference (old new : String) : Separates (difference old new) old new := by
  obtain ⟨hold, hnew⟩ := commonLines_sublist (pieces old) (pieces new)
  obtain ⟨hbefore, hafter⟩ := segments_separate _ _ _ _ (common_sublist_linesToMerge old _ hold)
    (common_sublist_linesToMerge new _ hnew) (Nat.lt_succ_self _)
  exact ⟨hbefore, hafter⟩

end CrossBrowser.Text
