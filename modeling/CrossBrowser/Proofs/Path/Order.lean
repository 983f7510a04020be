import CrossBrowser.Path
import Mathlib.Data.List.Lex
import Mathlib.Data.List.Sort
import Mathlib.Data.Prod.Lex
import Mathlib.Data.String.Basic

/-! The order of paths.

Components are ordered by their kinds and then by their names, and paths by their components as words
are in a dictionary (`le_iff`). So the order is linear but for paths with the same components, which
come before each other, and a list in which each path comes before the next (`Precedes`) is determined
by its members. -/
namespace CrossBrowser.Path

/-- What a component is ordered by: its kind, and then its name. -/
def Component.key (a : Component) : ℕ ×ₗ String := toLex (a.rank, a.nameText)

theorem Component.before_iff (a b : Component) : a.before b = true ↔ a.key < b.key := by
  rw [Component.before, Component.key, Component.key, Prod.Lex.toLex_lt_toLex]
  simp

theorem Component.key_injective : Function.Injective Component.key := by
  intro a b h
  obtain ⟨hrank, hname⟩ := Prod.mk.inj (toLex_inj.mp h)
  cases a <;> cases b <;> first | rfl | exact congrArg Component.name hname | cases hrank

theorem componentsLe_iff (as bs : List Component) :
    componentsLe as bs = true ↔ as.map Component.key ≤ bs.map Component.key := by
  rw [← not_lt]
  induction as generalizing bs with
  | nil => exact iff_of_true rfl (List.not_lt_nil _)
  | cons a as ih =>
    cases bs with
    | nil => exact iff_of_false Bool.false_ne_true (not_not.mpr (List.nil_lt_cons _ _))
    | cons b bs =>
      rw [componentsLe, Bool.or_eq_true, Bool.and_eq_true, Component.before_iff, beq_iff_eq, ih,
        List.map_cons, List.map_cons, List.cons_lt_cons_iff]
      rcases lt_trichotomy a.key b.key with h | h | h
      · refine iff_of_true (.inl h) fun hlt => ?_
        rcases hlt with hlt | ⟨he, _⟩
        · exact lt_asymm h hlt
        · exact lt_irrefl _ (he ▸ h)
      · obtain rfl := Component.key_injective h
        simp
      · refine iff_of_false (fun hle => ?_) (not_not.mpr (.inl h))
        rcases hle with hlt | ⟨he, _⟩
        · exact lt_asymm h hlt
        · exact lt_irrefl _ (he ▸ h)

/-! ### Paths -/

/-- What a path is ordered by. -/
def key (p : Path) : List (ℕ ×ₗ String) := p.components.map Component.key

theorem le_iff (p q : Path) : p.le q = true ↔ p.key ≤ q.key := componentsLe_iff _ _

theorem key_inj (p q : Path) : p.key = q.key ↔ p.components = q.components :=
  List.map_inj_right fun _ _ h => Component.key_injective h

/-- Whether a path comes before another and does not have the same components. -/
def Precedes (p q : Path) : Prop := p.le q = true ∧ p.components ≠ q.components

theorem precedes_iff (p q : Path) : p.Precedes q ↔ p.key < q.key := by
  rw [Precedes, le_iff, Ne, ← key_inj, lt_iff_le_and_ne]

instance : Std.Irrefl Precedes where
  irrefl _ h := h.2 rfl

instance : Std.Antisymm Precedes where
  antisymm p q h h' := absurd ((precedes_iff q p).mp h') (lt_asymm ((precedes_iff p q).mp h))

/-- Sorting puts paths with different components in the one order in which each precedes those
after it. -/
theorem pairwise_mergeSort_le (paths : List Path)
    (h : paths.Pairwise fun p q => p.components ≠ q.components) :
    (paths.mergeSort le).Pairwise Precedes := by
  have hsorted : (paths.mergeSort le).Pairwise fun p q => p.le q = true := by
    refine List.pairwise_mergeSort (fun p q r hpq hqr => ?_) (fun p q => ?_) paths
    · exact (le_iff p r).mpr (((le_iff p q).mp hpq).trans ((le_iff q r).mp hqr))
    · rw [Bool.or_eq_true, le_iff, le_iff]
      exact le_total p.key q.key
  have hdistinct := ((List.mergeSort_perm paths le).pairwise_iff fun {p q} hne => hne.symm).mpr h
  exact hsorted.and hdistinct

end CrossBrowser.Path
