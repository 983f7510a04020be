import CrossBrowser.CSharp.Layout
import CrossBrowser.Proofs.Text.Telling

/-! What steps of layout write.

The text that steps add to what is laid out already depends on the number of open blocks alone
(`laid`). Steps that close as many blocks as they open leave that number as it was (`Level`), so
what they write can be split off from what is written after them. -/
namespace CrossBrowser.CSharp
open Text

/-! ### One step -/

namespace LayoutStep

/-- The number of open blocks after a step. -/
def depth (d : Nat) : LayoutStep → Nat
  | openBlock => d + 1
  | closeBlock => d - 1
  | _ => d

/-- The characters that a step writes. -/
def laid (d : Nat) : LayoutStep → List Char
  | line text => (Layout.indented d text).toList
  | lines text => (Text.lines text).flatMap fun line => (Layout.indented d line).toList
  | blank => (Layout.indented d "").toList
  | openBlock => (Layout.indented d "\x7b").toList
  | closeBlock => (Layout.indented (d - 1) "\x7d").toList

end LayoutStep

namespace Layout

theorem addLine_toList (l : Layout) (line : String) :
    (l.addLine line).text.toList = l.text.toList ++ (indented l.depth line).toList :=
  String.toList_append

theorem foldl_addLine_toList (l : Layout) (lines : List String) :
    (lines.foldl addLine l).text.toList =
        l.text.toList ++ lines.flatMap (fun line => (indented l.depth line).toList) ∧
      (lines.foldl addLine l).depth = l.depth := by
  induction lines generalizing l with
  | nil => exact ⟨(List.append_nil _).symm, rfl⟩
  | cons line rest ih =>
    obtain ⟨htext, hdepth⟩ := ih (l.addLine line)
    refine ⟨?_, hdepth⟩
    rw [List.foldl_cons, htext, addLine_toList, List.flatMap_cons, List.append_assoc]
    rfl

theorem step_toList (l : Layout) (s : LayoutStep) :
    (l.step s).text.toList = l.text.toList ++ s.laid l.depth := by
  cases s with
  | line text => exact addLine_toList l text
  | lines text => exact (foldl_addLine_toList l (Text.lines text)).1
  | blank => exact addLine_toList l ""
  | openBlock => exact addLine_toList l "\x7b"
  | closeBlock => exact addLine_toList { l with depth := l.depth - 1 } "\x7d"

theorem step_depth (l : Layout) (s : LayoutStep) : (l.step s).depth = s.depth l.depth := by
  cases s with
  | lines text => exact (foldl_addLine_toList l (Text.lines text)).2
  | _ => rfl

end Layout

/-! ### Many steps -/

/-- The number of open blocks after steps. -/
def depthAfter (d : Nat) (steps : List LayoutStep) : Nat := steps.foldl LayoutStep.depth d

/-- The characters that steps write within some open blocks. -/
def laid (d : Nat) : List LayoutStep → List Char
  | [] => []
  | s :: rest => s.laid d ++ laid (s.depth d) rest

theorem laid_line (d : Nat) (text : String) (rest : List LayoutStep) :
    laid d (.line text :: rest) = (Layout.indented d text).toList ++ laid d rest := rfl

theorem laid_blank (d : Nat) (rest : List LayoutStep) :
    laid d (.blank :: rest) = '\n' :: laid d rest := by
  show (Layout.indented d "").toList ++ laid d rest = _
  rw [Layout.indented, if_pos rfl]
  rfl

theorem after_toList (l : Layout) (steps : List LayoutStep) :
    (l.after steps).text.toList = l.text.toList ++ laid l.depth steps := by
  induction steps generalizing l with
  | nil => exact (List.append_nil _).symm
  | cons s rest ih =>
    show ((l.step s).after rest).text.toList = _
    rw [ih, Layout.step_toList, Layout.step_depth, List.append_assoc]
    rfl

theorem layOut_toList (steps : List LayoutStep) : (layOut steps).toList = laid 0 steps :=
  after_toList .empty steps

theorem laid_append (d : Nat) (xs ys : List LayoutStep) :
    laid d (xs ++ ys) = laid d xs ++ laid (depthAfter d xs) ys := by
  induction xs generalizing d with
  | nil => rfl
  | cons s rest ih =>
    rw [List.cons_append, laid, ih, laid, List.append_assoc]
    rfl

/-- Steps that close as many blocks as they open. -/
def Level (steps : List LayoutStep) : Prop := ∀ d, depthAfter d steps = d

theorem Level.laid_append {xs : List LayoutStep} (h : Level xs) (d : Nat) (ys : List LayoutStep) :
    laid d (xs ++ ys) = laid d xs ++ laid d ys := by
  rw [CSharp.laid_append, h d]

theorem Level.append {xs ys : List LayoutStep} (hx : Level xs) (hy : Level ys) :
    Level (xs ++ ys) := by
  intro d
  rw [depthAfter, List.foldl_append]
  exact (congrArg (depthAfter · ys) (hx d)).trans (hy d)

theorem level_nil : Level [] := fun _ => rfl

theorem level_flatMap {α : Type} {f : α → List LayoutStep} (h : ∀ a, Level (f a)) (xs : List α) :
    Level (xs.flatMap f) := by
  induction xs with
  | nil => exact level_nil
  | cons x rest ih => exact (h x).append ih

theorem level_lines {α : Type} (f : α → String) (xs : List α) :
    Level (xs.map fun x => .line (f x)) := by
  induction xs with
  | nil => exact level_nil
  | cons x rest ih => exact ih

theorem Level.block {xs : List LayoutStep} (h : Level xs) :
    Level (.openBlock :: (xs ++ [.closeBlock])) := by
  intro d
  show depthAfter (d + 1) (xs ++ [.closeBlock]) = d
  rw [depthAfter, List.foldl_append]
  exact congrArg (depthAfter · [.closeBlock]) (h (d + 1))

theorem laid_flatMap {α : Type} {f : α → List LayoutStep} (h : ∀ a, Level (f a)) (d : Nat)
    (xs : List α) : laid d (xs.flatMap f) = xs.flatMap fun a => laid d (f a) := by
  induction xs with
  | nil => rfl
  | cons x rest ih => rw [List.flatMap_cons, (h x).laid_append, ih, List.flatMap_cons]

theorem laid_lines {α : Type} (d : Nat) (f : α → String) (xs : List α) :
    laid d (xs.map fun x => .line (f x)) =
      xs.flatMap fun x => (Layout.indented d (f x)).toList := by
  induction xs with
  | nil => rfl
  | cons x rest ih =>
    rw [List.map_cons, laid, List.flatMap_cons]
    exact congrArg _ ih

theorem laid_block {xs : List LayoutStep} (h : Level xs) (d : Nat) (ys : List LayoutStep) :
    laid d (.openBlock :: (xs ++ .closeBlock :: ys)) =
      (Layout.indented d "\x7b").toList ++
        (laid (d + 1) xs ++ ((Layout.indented d "\x7d").toList ++ laid d ys)) := by
  show _ ++ laid (d + 1) (xs ++ .closeBlock :: ys) = _
  rw [h.laid_append]
  rfl

/-! ### Lines -/

theorem indented_toList (d : Nat) {line : String} (h : line ≠ "") :
    (Layout.indented d line).toList =
      (Layout.indentation d).toList ++ (line.toList ++ ['\n']) := by
  rw [Layout.indented, if_neg h, String.toList_append, String.toList_append, List.append_assoc]
  rfl

theorem indentation_succ (d : Nat) :
    (Layout.indentation (d + 1)).toList = (Layout.indentation d).toList ++ "    ".toList := by
  rw [Layout.indentation, List.replicate_succ', String.join_append, String.toList_append]
  rfl

variable {α κ : Type} {line : α → String} {key : α → κ}

/-- Lines of their own tell what their texts tell. -/
theorem tells_indented (h : Tells (fun a => (line a).toList) key) (hne : ∀ a, line a ≠ "")
    (d : Nat) : Tells (fun a => (Layout.indented d (line a)).toList) key := by
  simp only [indented_toList d (hne _)]
  exact h.between _ _

theorem foreign_indented {other : String} {r : List Char}
    (h : Foreign (fun a => (line a).toList) (other.toList ++ '\n' :: r)) (hne : ∀ a, line a ≠ "")
    (hother : other ≠ "") (d : Nat) :
    Foreign (fun a => (Layout.indented d (line a)).toList)
      ((Layout.indented d other).toList ++ r) := by
  intro a t heq
  simp only [indented_toList d hother, indented_toList d (hne a), List.append_assoc,
    List.append_cancel_left_eq] at heq
  exact h a _ heq

/-- The end of a block is not a line within it. -/
theorem closing_ne_line (d : Nat) {line : String} (h : line ≠ "") (r s : List Char) :
    (Layout.indented d "\x7d").toList ++ r ≠ (Layout.indented (d + 1) line).toList ++ s := by
  intro heq
  rw [indented_toList d (by decide), indented_toList _ h, indentation_succ] at heq
  simp at heq

end CrossBrowser.CSharp
