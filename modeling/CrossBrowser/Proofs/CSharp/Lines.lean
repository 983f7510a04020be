import CrossBrowser.Proofs.CSharp.Layout
import CrossBrowser.Proofs.Text.Splitting
import Mathlib.Data.List.Basic

/-! The lines of code that is laid out.

Steps write lines (`linesOf`), and layout puts blanks in front of them. If no line that they write
is broken by a line feed, the text is cut at its line feeds into just these lines, apart from the
blanks, and an empty one at the end (`pieces_layOut`). So what a line begins with can be looked up
in the steps. -/
namespace CrossBrowser.CSharp
open Text

/-! ### Texts that stay on one line -/

/-- Whether a text has no line feed. -/
def OneLine (text : String) : Prop := '\n' ∉ text.toList

instance (text : String) : Decidable (OneLine text) := inferInstanceAs (Decidable (¬_))

theorem oneLine_ofList {cs : List Char} (h : '\n' ∉ cs) : OneLine (String.ofList cs) := by
  rwa [OneLine, String.toList_ofList]

theorem OneLine.append {s t : String} (hs : OneLine s) (ht : OneLine t) : OneLine (s ++ t) := by
  rw [OneLine, String.toList_append, List.mem_append]
  exact fun h => h.elim hs ht

theorem OneLine.intercalate {separator : String} {texts : List String} (hs : OneLine separator)
    (h : ∀ text ∈ texts, OneLine text) : OneLine (separator.intercalate texts) :=
  not_mem_intercalate hs h

/-! ### The lines that steps write -/

/-- The lines that a step writes, without the blanks in front of them. -/
def LayoutStep.texts : LayoutStep → List String
  | line text => [text]
  | lines text => Text.lines text
  | blank => [""]
  | openBlock => ["\x7b"]
  | closeBlock => ["\x7d"]

/-- The lines that steps write, without the blanks in front of them. -/
def linesOf (steps : List LayoutStep) : List String := steps.flatMap LayoutStep.texts

theorem linesOf_append (xs ys : List LayoutStep) : linesOf (xs ++ ys) = linesOf xs ++ linesOf ys :=
  List.flatMap_append

theorem linesOf_lines {α : Type} (f : α → String) (xs : List α) :
    linesOf (xs.map fun x => .line (f x)) = xs.map f := by
  rw [linesOf, List.flatMap_map, List.map_eq_flatMap]
  rfl

theorem LayoutStep.laid_eq (s : LayoutStep) (d : Nat) :
    ∃ d', s.laid d = s.texts.flatMap fun text => (Layout.indented d' text).toList := by
  cases s with
  | lines text => exact ⟨d, rfl⟩
  | closeBlock => exact ⟨d - 1, (List.append_nil _).symm⟩
  | _ => exact ⟨d, (List.append_nil _).symm⟩

/-! ### The lines of a text -/

/-- A line without the blanks in front of it. -/
def unindented (line : List Char) : List Char := line.dropWhile (· = ' ')

theorem eq_blank_of_mem_indentation {c : Char} {d : Nat}
    (h : c ∈ (Layout.indentation d).toList) : c = ' ' := by
  induction d with
  | zero => cases h
  | succ d ih =>
    rw [indentation_succ, List.mem_append] at h
    exact h.elim ih fun h => by simpa using h

theorem unindented_indentation (d : Nat) (line : List Char) :
    unindented ((Layout.indentation d).toList ++ line) = unindented line :=
  List.dropWhile_append_of_pos fun _ hc => decide_eq_true (eq_blank_of_mem_indentation hc)

/-- A line that is laid out is the first line of the text from there on. -/
theorem unindented_indented {line : String} (h : OneLine line) (d : Nat) (rest : List Char) :
    (((Layout.indented d line).toList ++ rest).splitOn '\n').map unindented =
      unindented line.toList :: (rest.splitOn '\n').map unindented := by
  by_cases hline : line = ""
  · have hempty : (Layout.indented d line).toList ++ rest = [] ++ '\n' :: rest := by
      rw [Layout.indented, if_pos hline]
      rfl
    rw [hempty, List.splitOn_append_cons_self_of_not_mem List.not_mem_nil, hline]
    rfl
  · have hfirst : '\n' ∉ (Layout.indentation d).toList ++ line.toList := by
      rw [List.mem_append]
      refine fun hmem => hmem.elim (fun hblank => ?_) h
      exact absurd (eq_blank_of_mem_indentation hblank) (by decide)
    rw [indented_toList d hline, ← List.append_assoc, List.append_assoc, List.singleton_append,
      List.splitOn_append_cons_self_of_not_mem hfirst, List.map_cons, unindented_indentation]

theorem unindented_texts (lines : List String) (h : ∀ line ∈ lines, OneLine line) (d : Nat)
    (rest : List Char) :
    (((lines.flatMap fun line => (Layout.indented d line).toList) ++ rest).splitOn '\n').map
        unindented =
      lines.map (fun line => unindented line.toList) ++ (rest.splitOn '\n').map unindented := by
  induction lines with
  | nil => rfl
  | cons line lines ih =>
    rw [List.flatMap_cons, List.append_assoc, unindented_indented (h line List.mem_cons_self),
      ih fun later hlater => h later (List.mem_cons_of_mem _ hlater)]
    rfl

theorem unindented_laid (steps : List LayoutStep) (h : ∀ line ∈ linesOf steps, OneLine line)
    (d : Nat) :
    ((laid d steps).splitOn '\n').map unindented =
      (linesOf steps).map (fun line => unindented line.toList) ++ [[]] := by
  induction steps generalizing d with
  | nil => rfl
  | cons s rest ih =>
    rw [linesOf, List.flatMap_cons, ← linesOf, List.forall_mem_append] at h
    obtain ⟨d', hs⟩ := s.laid_eq d
    rw [laid, hs, unindented_texts _ h.1, ih h.2, ← List.append_assoc, ← List.map_append]
    rfl

/-- The lines of a text, but for the blanks in front of them, are those that the steps write. -/
theorem pieces_layOut (steps : List LayoutStep) (h : ∀ line ∈ linesOf steps, OneLine line) :
    (pieces (layOut steps)).map (fun line => unindented line.toList) =
      (linesOf steps).map (fun line => unindented line.toList) ++ [[]] := by
  rw [← unindented_laid steps h 0, pieces, layOut_toList, List.map_map]
  refine List.map_congr_left fun line _ => ?_
  rw [Function.comp_apply, String.toList_ofList]

/-! ### What lines begin with -/

/-- Whether a line begins with an opening, after the blanks in front of it. -/
def begins (opening line : String) : Bool := opening.toList.isPrefixOf (unindented line.toList)

/-- How many lines of a text begin with an opening. -/
def linesBeginning (opening text : String) : Nat := (pieces text).countP (begins opening)

theorem linesBeginning_layOut {opening : String} (hopening : opening ≠ "")
    (steps : List LayoutStep) (h : ∀ line ∈ linesOf steps, OneLine line) :
    linesBeginning opening (layOut steps) = (linesOf steps).countP (begins opening) := by
  have hcount : ∀ lines : List String, lines.countP (begins opening) =
      (lines.map fun line => unindented line.toList).countP opening.toList.isPrefixOf :=
    fun lines => List.countP_map.symm
  have hend : opening.toList.isPrefixOf [] = false := by
    rw [Bool.eq_false_iff, Ne, List.isPrefixOf_iff_prefix, List.prefix_nil]
    exact fun he => hopening (String.toList_eq_nil_iff.mp he)
  rw [linesBeginning, hcount, hcount, pieces_layOut steps h, List.countP_append]
  simp [hend]

theorem unindented_append {front : List Char} (h : unindented front ≠ []) (rest : List Char) :
    unindented (front ++ rest) = unindented front ++ rest := by
  rw [unindented, List.dropWhile_append, ← unindented, if_neg (by simpa using h)]

theorem begins_append {opening : String} (h : unindented opening.toList = opening.toList)
    (hne : opening ≠ "") (rest : String) : begins opening (opening ++ rest) = true := by
  have hlist : unindented opening.toList ≠ [] := by
    rw [h]
    exact mt String.toList_eq_nil_iff.mp hne
  rw [begins, String.toList_append, unindented_append hlist, h, List.isPrefixOf_iff_prefix]
  exact List.prefix_append _ _

/-- Whether a line differs from an opening before either ends. -/
def departs (opening line : List Char) : Bool :=
  !opening.isPrefixOf (unindented line) && !(unindented line).isPrefixOf opening

/-- No line begins with an opening if it departs from it, whatever comes after that. -/
theorem not_begins_of_departs {opening front : String}
    (h : departs opening.toList front.toList = true) (rest : String) :
    begins opening (front ++ rest) = false := by
  simp only [departs, Bool.and_eq_true, Bool.not_eq_eq_eq_not, Bool.not_true,
    Bool.eq_false_iff, Ne, List.isPrefixOf_iff_prefix] at h
  obtain ⟨hlonger, hshorter⟩ := h
  have hne : unindented front.toList ≠ [] := fun he => hshorter (he ▸ List.nil_prefix)
  rw [begins, String.toList_append, unindented_append hne, Bool.eq_false_iff, Ne,
    List.isPrefixOf_iff_prefix]
  intro hprefix
  exact (List.prefix_or_prefix_of_prefix hprefix (List.prefix_append _ _)).elim hlonger hshorter

end CrossBrowser.CSharp
