/-! Classes of characters given as tables of code point ranges.

A table is searched from its lowest range on. The search may stop early because the table is
sorted; `covers_eq_true_iff` says that it then finds every point of every range. -/
namespace CrossBrowser.Text

/-- Whether a code point lies in one of the closed ranges of a table. The ranges are sorted, so
the search stops at the first one that begins above the point. -/
def covers : List (Nat × Nat) → Nat → Bool
  | [], _ => false
  | (first, last) :: rest, n =>
    if n < first then false else if n ≤ last then true else covers rest n

/-- Whether the ranges of a table begin in increasing order, none of them below `low`. -/
def isSortedFrom (low : Nat) : List (Nat × Nat) → Bool
  | [] => true
  | (first, _) :: rest => low ≤ first && isSortedFrom first rest

theorem le_of_isSortedFrom {low : Nat} {table : List (Nat × Nat)}
    (sorted : isSortedFrom low table = true) : ∀ r ∈ table, low ≤ r.1 := by
  induction table generalizing low with
  | nil => simp
  | cons r rest ih =>
    simp only [isSortedFrom, Bool.and_eq_true, decide_eq_true_eq] at sorted
    intro s hs
    rcases List.mem_cons.mp hs with rfl | hs
    · exact sorted.1
    · exact Nat.le_trans sorted.1 (ih sorted.2 s hs)

theorem covers_eq_true_iff {low : Nat} {table : List (Nat × Nat)}
    (sorted : isSortedFrom low table = true) (n : Nat) :
    covers table n = true ↔ ∃ r ∈ table, r.1 ≤ n ∧ n ≤ r.2 := by
  induction table generalizing low with
  | nil => simp [covers]
  | cons r rest ih =>
    simp only [isSortedFrom, Bool.and_eq_true, decide_eq_true_eq] at sorted
    have above := le_of_isSortedFrom sorted.2
    have step := ih sorted.2
    simp only [covers]
    split
    · constructor
      · simp
      · rintro ⟨s, hs, _, _⟩
        rcases List.mem_cons.mp hs with rfl | hs
        · omega
        · have := above s hs; omega
    · split
      · simp only [true_iff]
        exact ⟨r, List.mem_cons_self, by omega, by omega⟩
      · rw [step]
        constructor
        · rintro ⟨s, hs, h⟩
          exact ⟨s, List.mem_cons_of_mem _ hs, h⟩
        · rintro ⟨s, hs, h⟩
          rcases List.mem_cons.mp hs with rfl | hs
          · omega
          · exact ⟨s, hs, h⟩

end CrossBrowser.Text
