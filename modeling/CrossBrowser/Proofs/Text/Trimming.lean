import CrossBrowser.Proofs.Text.Splitting
import CrossBrowser.Text.Blank
import Mathlib.Data.List.DropRight
import Mathlib.Data.List.TakeWhile

/-! Texts without blanks at their ends.

Trimming gives such a text, made of characters of the one it is given (`trimmed_trim`), and leaves
such a text as it is (`Trimmed.trim_eq`). Blanks around a text make no difference
(`trim_surrounded`). Put together with spaces between them, texts that say something and are trimmed
are a trimmed text (`Trimmed.intercalate`). -/
namespace CrossBrowser.Text

/-- A text that neither begins nor ends in a blank. -/
structure Trimmed (s : String) : Prop where
  head : ∀ c, s.toList.head? = some c → isBlank c = false
  last : ∀ c, s.toList.getLast? = some c → isBlank c = false

theorem trimmed_empty : Trimmed "" where
  head _ h := by cases h
  last _ h := by cases h

/-! ### Trimming -/

theorem dropEndsWhile_eq {α : Type} (p : α → Bool) (xs : List α) :
    dropEndsWhile p xs = (xs.dropWhile p).rdropWhile p := rfl

theorem toList_trim (s : String) :
    (trim s).toList = (s.toList.dropWhile isBlank).rdropWhile isBlank :=
  String.toList_ofList

section
variable {α : Type} (p : α → Bool)

theorem not_of_head?_dropWhile {xs : List α} {x : α} (h : (xs.dropWhile p).head? = some x) :
    p x = false := by
  have hnot := List.head?_dropWhile_not p xs
  rw [h] at hnot
  simpa using hnot

theorem not_of_getLast?_rdropWhile {xs : List α} {x : α}
    (h : (xs.rdropWhile p).getLast? = some x) : p x = false := by
  rw [List.rdropWhile, List.getLast?_reverse] at h
  exact not_of_head?_dropWhile p h

/-- Dropping at the end does not change how a list begins, unless all of it goes. -/
theorem head?_of_rdropWhile {xs : List α} {x : α} (h : (xs.rdropWhile p).head? = some x) :
    xs.head? = some x := by
  obtain ⟨rest, hrest⟩ := List.rdropWhile_prefix p xs
  rw [← hrest, List.head?_append, h]
  rfl

end

theorem mem_of_mem_trim {s : String} {c : Char} (h : c ∈ (trim s).toList) : c ∈ s.toList := by
  rw [toList_trim] at h
  exact List.dropWhile_subset _ ((List.rdropWhile_prefix isBlank _).subset h)

theorem trimmed_trim (s : String) : Trimmed (trim s) := by
  constructor
  · intro c h
    rw [toList_trim] at h
    exact not_of_head?_dropWhile isBlank (head?_of_rdropWhile isBlank h)
  · intro c h
    rw [toList_trim] at h
    exact not_of_getLast?_rdropWhile isBlank h

theorem Trimmed.trim_eq {s : String} (h : Trimmed s) : trim s = s := by
  have hhead : s.toList.dropWhile isBlank = s.toList := by
    apply List.dropWhile_eq_self_iff.mpr
    intro hne
    simp [h.head _ (List.head?_eq_getElem?.trans (List.getElem?_eq_getElem hne))]
  have hlast : s.toList.rdropWhile isBlank = s.toList := by
    apply List.rdropWhile_eq_self_iff.mpr
    intro hne
    simp [h.last _ (List.getLast?_eq_some_getLast hne)]
  rw [← String.toList_inj, toList_trim, hhead, hlast]

/-! ### What trimming takes off -/

/-- A text trims to nothing exactly if it holds nothing but blanks. -/
theorem trim_eq_empty_iff (s : String) : trim s = "" ↔ isBlankText s = true := by
  rw [← String.toList_eq_nil_iff, toList_trim, List.rdropWhile_eq_nil_iff, isBlankText,
    List.all_eq_true]
  constructor
  · intro h c hc
    rw [← List.takeWhile_append_dropWhile (p := isBlank) (l := s.toList), List.mem_append] at hc
    exact hc.elim List.mem_takeWhile_imp (h c)
  · intro h c hc
    exact h c (List.dropWhile_subset _ hc)

section
variable {α β : Type} (p : α → Bool)

theorem dropEndsWhile_map (f : β → α) (xs : List β) :
    dropEndsWhile p (xs.map f) = (dropEndsWhile (p ∘ f) xs).map f := by
  simp [dropEndsWhile, List.dropWhile_map, ← List.map_reverse]

theorem rdropWhile_append (xs : List α) {ys : List α} (h : ∀ y ∈ ys, p y = true) :
    (xs ++ ys).rdropWhile p = xs.rdropWhile p := by
  rw [List.rdropWhile, List.reverse_append, List.dropWhile_append_of_pos (by simpa using h),
    List.rdropWhile]

/-- What is dropped at the ends does not matter. -/
theorem dropEndsWhile_surrounded {before after : List α} (hbefore : ∀ x ∈ before, p x = true)
    (hafter : ∀ x ∈ after, p x = true) (xs : List α) :
    dropEndsWhile p (before ++ xs ++ after) = dropEndsWhile p xs := by
  rw [dropEndsWhile_eq, dropEndsWhile_eq, List.append_assoc,
    List.dropWhile_append_of_pos hbefore, List.dropWhile_append]
  split
  · next hnone =>
    rw [List.isEmpty_iff.mp hnone, List.dropWhile_eq_nil_iff.mpr hafter]
  · exact rdropWhile_append p _ hafter

end

theorem trim_surrounded {before after : String} (hbefore : isBlankText before = true)
    (hafter : isBlankText after = true) (s : String) : trim (before ++ s ++ after) = trim s := by
  rw [trim, String.toList_append, String.toList_append,
    dropEndsWhile_surrounded isBlank (List.all_eq_true.mp hbefore) (List.all_eq_true.mp hafter),
    trim]

section
variable (p : Char → Bool) {s t : String} {c : Char}

theorem toList_trimEnd (s : String) : (trimEnd p s).toList = s.toList.rdropWhile p :=
  String.toList_ofList

theorem trimEnd_of_last (hs : s.toList.getLast? = some c) (hc : p c = false) :
    trimEnd p s = s := by
  rw [← String.toList_inj, toList_trimEnd]
  apply List.rdropWhile_eq_self_iff.mpr
  intro hne
  rw [List.getLast?_eq_some_getLast hne, Option.some.injEq] at hs
  simp [hs, hc]

/-- Trimming takes the end of a text off, up to a character that is to stay. -/
theorem trimEnd_append (hs : s.toList.getLast? = some c) (hc : p c = false)
    (ht : t.toList.all p = true) : trimEnd p (s ++ t) = s := by
  rw [← String.toList_inj, toList_trimEnd, String.toList_append,
    rdropWhile_append p _ (List.all_eq_true.mp ht), ← toList_trimEnd, trimEnd_of_last p hs hc]

end

/-! ### Texts with spaces between them -/

theorem Trimmed.append_space {s t : String} (hs : Trimmed s) (hs' : s ≠ "") (ht : Trimmed t)
    (ht' : t ≠ "") : Trimmed (s ++ " " ++ t) := by
  have hne : ∀ u : String, u ≠ "" → u.toList ≠ [] := fun u hu => mt String.toList_eq_nil_iff.mp hu
  constructor
  · intro c h
    rw [String.append_assoc, String.toList_append, List.head?_append_of_ne_nil _ (hne s hs')] at h
    exact hs.head c h
  · intro c h
    rw [String.toList_append, List.getLast?_append_of_ne_nil _ (hne t ht')] at h
    exact ht.last c h

theorem Trimmed.intercalate {texts : List String} (h : ∀ s ∈ texts, Trimmed s ∧ s ≠ "") :
    Trimmed (" ".intercalate texts) := by
  induction texts with
  | nil => exact trimmed_empty
  | cons s rest ih =>
    obtain ⟨hs, hs'⟩ := h s List.mem_cons_self
    cases rest with
    | nil =>
      rw [String.intercalate_singleton]
      exact hs
    | cons t others =>
      have ht' := (h t (List.mem_cons_of_mem s List.mem_cons_self)).2
      rw [String.intercalate_cons_cons]
      refine hs.append_space hs' (ih fun u hu => h u (List.mem_cons_of_mem s hu)) fun hempty => ?_
      cases others with
      | nil =>
        rw [String.intercalate_singleton] at hempty
        exact ht' hempty
      | cons u others =>
        rw [String.intercalate_cons_cons] at hempty
        have hlength := congrArg String.length hempty
        simp [String.length_append] at hlength

end CrossBrowser.Text
