import CrossBrowser.Text.CharRange
import Mathlib.Data.List.Basic

/-! Comparing tables of code point ranges.

That all points of a range are in a table, or that two tables have no point in common, can be told
from where the ranges begin and end (`covers_of_within`, `not_covers_of_apart`). Both are looked up
in one pass over sorted tables. -/
namespace CrossBrowser.Text

/-- Whether a range lies in a range of a table. As the table is sorted, it can only be the first one
that does not end before the range begins. -/
def within : List (Nat × Nat) → Nat → Nat → Bool
  | [], _, _ => false
  | r :: rest, first, last =>
    bif first.ble r.2 then r.1.ble first && last.ble r.2 else within rest first last

/-- Whether no range of a table meets one of another. As the tables are sorted, what ends before one
range begins is behind the later ranges too. -/
def apart : List (Nat × Nat) → List (Nat × Nat) → Bool
  | [], _ => true
  | r :: rest, table =>
    match table.dropWhile fun s => s.2.blt r.1 with
    | [] => true
    | s :: later => r.2.blt s.1 && apart rest (s :: later)

theorem exists_of_within {table : List (Nat × Nat)} {first last : Nat}
    (h : within table first last = true) : ∃ r ∈ table, r.1 ≤ first ∧ last ≤ r.2 := by
  induction table with
  | nil => cases h
  | cons r rest ih =>
    rw [within] at h
    cases hle : first.ble r.2 with
    | true =>
      rw [hle, cond_true, Bool.and_eq_true, Nat.ble_eq, Nat.ble_eq] at h
      exact ⟨r, List.mem_cons_self, h⟩
    | false =>
      rw [hle, cond_false] at h
      obtain ⟨s, hs, hbounds⟩ := ih h
      exact ⟨s, List.mem_cons_of_mem r hs, hbounds⟩

theorem covers_of_within {low : Nat} {table : List (Nat × Nat)}
    (sorted : isSortedFrom low table = true) {first last n : Nat}
    (h : within table first last = true) (hfirst : first ≤ n) (hlast : n ≤ last) :
    covers table n = true := by
  obtain ⟨r, hr, hlow, hhigh⟩ := exists_of_within h
  exact (covers_eq_true_iff sorted n).mpr
    ⟨r, hr, Nat.le_trans hlow hfirst, Nat.le_trans hlast hhigh⟩

theorem pairwise_of_isSortedFrom {low : Nat} {table : List (Nat × Nat)}
    (sorted : isSortedFrom low table = true) : table.Pairwise fun r s => r.1 ≤ s.1 := by
  induction table generalizing low with
  | nil => exact .nil
  | cons r rest ih =>
    simp only [isSortedFrom, Bool.and_eq_true] at sorted
    exact .cons (le_of_isSortedFrom sorted.2) (ih sorted.2)

/-- A range is passed over only if it ends too early. -/
theorem mem_dropWhile_of_le {table : List (Nat × Nat)} {s : Nat × Nat} {first : Nat}
    (hs : s ∈ table) (hle : first ≤ s.2) : s ∈ table.dropWhile fun t => t.2.blt first := by
  induction table with
  | nil => cases hs
  | cons t rest ih =>
    rw [List.dropWhile_cons]
    split
    · next hpassed =>
      rcases List.mem_cons.mp hs with rfl | hs
      · rw [Nat.blt_eq] at hpassed
        omega
      · exact ih hs
    · exact hs

theorem lt_of_apart {xs ys : List (Nat × Nat)} (hxs : xs.Pairwise fun r s => r.1 ≤ s.1)
    (hys : ys.Pairwise fun r s => r.1 ≤ s.1) (h : apart xs ys = true) {r s : Nat × Nat}
    (hr : r ∈ xs) (hs : s ∈ ys) (hmeet : r.1 ≤ s.2) : r.2 < s.1 := by
  induction xs generalizing ys with
  | nil => cases hr
  | cons x rest ih =>
    have hfirst : x.1 ≤ s.2 := by
      rcases List.mem_cons.mp hr with rfl | hr
      · exact hmeet
      · exact Nat.le_trans (List.rel_of_pairwise_cons hxs hr) hmeet
    have hkept := mem_dropWhile_of_le hs hfirst
    have hsorted := hys.sublist (List.dropWhile_sublist fun t => t.2.blt x.1)
    rw [apart] at h
    split at h
    · next hnone =>
      rw [hnone] at hkept
      cases hkept
    · next y later hdrop =>
      rw [hdrop] at hkept hsorted
      rw [Bool.and_eq_true, Nat.blt_eq] at h
      rcases List.mem_cons.mp hr with rfl | hr
      · have hle : y.1 ≤ s.1 := by
          rcases List.mem_cons.mp hkept with rfl | hlater
          · exact Nat.le_refl _
          · exact List.rel_of_pairwise_cons hsorted hlater
        omega
      · exact ih (List.pairwise_cons.mp hxs).2 hsorted h.2 hr hkept

theorem not_covers_of_apart {low low' : Nat} {xs ys : List (Nat × Nat)}
    (hxs : isSortedFrom low xs = true) (hys : isSortedFrom low' ys = true)
    (h : apart xs ys = true) {n : Nat} (hn : covers xs n = true) : covers ys n = false := by
  rw [Bool.eq_false_iff]
  intro hn'
  obtain ⟨r, hr, hlow, hhigh⟩ := (covers_eq_true_iff hxs n).mp hn
  obtain ⟨s, hs, hlow', hhigh'⟩ := (covers_eq_true_iff hys n).mp hn'
  have := lt_of_apart (pairwise_of_isSortedFrom hxs) (pairwise_of_isSortedFrom hys) h hr hs
    (by omega)
  omega

end CrossBrowser.Text
