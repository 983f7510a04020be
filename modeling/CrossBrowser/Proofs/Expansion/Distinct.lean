import CrossBrowser.Expansion.Fanout
import CrossBrowser.Feature.Basic
import Mathlib.Data.List.Induction
import Mathlib.Data.List.Nodup

/-! The distinct elements of a list, and rows merged by what they pass.

`distinct` keeps what occurs first. Seen from the end of the list it is a list that only grows
(`distinct_append`), which is how elements that come one after the other build it up. Rows are
merged by their cells and tags (`mergedRows`): where a row occurs first, there it stays, and its
last occurrence says whether it is ignored. -/
namespace CrossBrowser

section
variable {α : Type} [DecidableEq α]

/-- Keeping what occurs first is erasing what has been seen and what occurs again. -/
theorem distinct_eq_eraseDups (seen xs : List α) :
    distinct seen xs = (xs.filter (· ∉ seen)).eraseDups := by
  induction xs generalizing seen with
  | nil => rfl
  | cons x rest ih =>
    rw [distinct]
    split
    · next h => rw [List.filter_cons_of_neg (by simpa using h), ih]
    · next h =>
      have hrest : (rest.filter (· ∉ seen)).filter (fun y => !y == x) =
          rest.filter (· ∉ x :: seen) := by
        rw [List.filter_filter]
        refine List.filter_congr fun y _ => ?_
        simp [Bool.beq_eq_decide_eq]
      rw [List.filter_cons_of_pos (by simpa using h), List.eraseDups_cons, hrest, ih]

theorem mem_distinct (seen xs : List α) (x : α) : x ∈ distinct seen xs ↔ x ∈ xs ∧ x ∉ seen := by
  rw [distinct_eq_eraseDups, List.mem_eraseDups, List.mem_filter, decide_eq_true_iff]

theorem distinct_nodup (seen xs : List α) : (distinct seen xs).Nodup := by
  induction xs generalizing seen with
  | nil => exact List.nodup_nil
  | cons y rest ih =>
    unfold distinct
    split
    · exact ih seen
    · refine List.nodup_cons.mpr ⟨fun h => ?_, ih (y :: seen)⟩
      exact ((mem_distinct (y :: seen) rest y).mp h).2 List.mem_cons_self

/-- To what comes after a list, all of the list has been seen. -/
theorem distinct_append (seen xs ys : List α) :
    distinct seen (xs ++ ys) = distinct seen xs ++ distinct (seen ++ xs) ys := by
  have hnew : (ys.filter (· ∉ seen)).removeAll (xs.filter (· ∉ seen)) =
      ys.filter (· ∉ seen ++ xs) := by
    rw [List.removeAll, List.filter_filter]
    refine List.filter_congr fun y _ => ?_
    by_cases hy : y ∈ seen <;> simp [hy]
  simp only [distinct_eq_eraseDups, List.filter_append, List.eraseDups_append, hnew]

/-- One more element at the end is kept unless it has been seen. -/
theorem distinct_append_singleton (seen xs : List α) (x : α) :
    distinct seen (xs ++ [x]) =
      if x ∈ seen ∨ x ∈ xs then distinct seen xs else distinct seen xs ++ [x] := by
  simp only [distinct_append, distinct, List.mem_append]
  split
  · rw [List.append_nil]
  · rfl

theorem distinct_concat_of_mem (xs : List α) (x : α) (h : x ∈ xs) :
    distinct [] (xs ++ [x]) = distinct [] xs := by
  rw [distinct_append_singleton, if_pos (.inr h)]

theorem distinct_concat_of_not_mem (xs : List α) (x : α) (h : x ∉ xs) :
    distinct [] (xs ++ [x]) = distinct [] xs ++ [x] := by
  rw [distinct_append_singleton, if_neg (by simp [h])]

/-- What has been seen can be left out before or after. -/
theorem distinct_eq_filter (seen xs : List α) :
    distinct seen xs = (distinct [] xs).filter (· ∉ seen) := by
  induction xs using List.reverseRecOn with
  | nil => rfl
  | append_singleton xs x ih =>
    rw [distinct_append_singleton, ih]
    by_cases hx : x ∈ xs
    · rw [if_pos (.inr hx), distinct_concat_of_mem _ _ hx]
    · rw [distinct_concat_of_not_mem _ _ hx, List.filter_append]
      by_cases hseen : x ∈ seen <;> simp [hseen, hx]

/-- What has been seen before does not count at the end either. -/
theorem distinct_append_of_subset (xs ys : List α) (h : ∀ y ∈ ys, y ∈ xs) :
    distinct [] (xs ++ ys) = distinct [] xs := by
  have hnone : distinct xs ys = [] := by
    refine List.eq_nil_iff_forall_not_mem.mpr fun y hy => ?_
    obtain ⟨hmem, hnew⟩ := (mem_distinct xs ys y).mp hy
    exact hnew (h y hmem)
  rw [distinct_append, List.nil_append, hnone, List.append_nil]

/-- A list without repetitions keeps all its elements. -/
theorem distinct_of_nodup (xs : List α) (h : xs.Nodup) : distinct [] xs = xs := by
  induction xs using List.reverseRecOn with
  | nil => rfl
  | append_singleton xs x ih =>
    obtain ⟨hxs, -, hx⟩ := List.nodup_append.mp h
    have hmem : x ∉ xs := fun hmem => hx x hmem x List.mem_cons_self rfl
    rw [distinct_concat_of_not_mem _ _ hmem, ih hxs]

end

/-! ### Merged rows -/

/-- Whether two rows pass the same arguments: their cells and their tags. -/
def ExampleRow.Agrees (r s : ExampleRow) : Prop := r.cells = s.cells ∧ r.tags = s.tags

instance (r s : ExampleRow) : Decidable (r.Agrees s) := inferInstanceAs (Decidable (_ ∧ _))

/-- Whether the last of the rows with these cells and tags is ignored. -/
def lastIgnored (rows : List ExampleRow) (cells tags : List String) : Bool :=
  (rows.filter fun r => r.cells = cells ∧ r.tags = tags).getLast?.any (·.ignored)

/-- The rows with those that have the same cells and tags merged: they stand where the first of them
stands, and are ignored if the last of them is. -/
def mergedRows (rows : List ExampleRow) : List ExampleRow :=
  (distinct [] (rows.map fun r => (r.cells, r.tags))).map fun (cells, tags) =>
    ⟨cells, tags, lastIgnored rows cells tags⟩

/-- Puts a row in the place of the one it agrees with, or else at the end. -/
def mergeRow (r : ExampleRow) : List ExampleRow → List ExampleRow
  | [] => [r]
  | s :: rest => if r.Agrees s then r :: rest else s :: mergeRow r rest

theorem lastIgnored_concat_same (rows : List ExampleRow) (r : ExampleRow) :
    lastIgnored (rows ++ [r]) r.cells r.tags = r.ignored := by
  simp [lastIgnored, List.filter_append]

theorem lastIgnored_concat_other (rows : List ExampleRow) (r : ExampleRow)
    (cells tags : List String) (h : (r.cells, r.tags) ≠ (cells, tags)) :
    lastIgnored (rows ++ [r]) cells tags = lastIgnored rows cells tags := by
  have : ¬(r.cells = cells ∧ r.tags = tags) := fun he => h (Prod.ext he.1 he.2)
  simp [lastIgnored, List.filter_append, this]

/-- What merging does to the flags of rows. -/
def flagged (r : ExampleRow) (flag : List String × List String → Bool)
    (key : List String × List String) : ExampleRow :=
  ⟨key.1, key.2, if key = (r.cells, r.tags) then r.ignored else flag key⟩

theorem mergeRow_of_not_mem (r : ExampleRow) (flag : List String × List String → Bool)
    (keys : List (List String × List String)) (h : (r.cells, r.tags) ∉ keys) :
    mergeRow r (keys.map fun k => ⟨k.1, k.2, flag k⟩) =
      (keys ++ [(r.cells, r.tags)]).map (flagged r flag) := by
  induction keys with
  | nil => simp [mergeRow, flagged]
  | cons k rest ih =>
    obtain ⟨hk, hrest⟩ := not_or.mp (fun hmem => h (List.mem_cons.mpr hmem))
    have hne : ¬r.Agrees ⟨k.1, k.2, flag k⟩ := fun he => hk (Prod.ext he.1 he.2)
    rw [List.map_cons, mergeRow, if_neg hne, ih hrest]
    simp [flagged, Ne.symm hk]

theorem mergeRow_of_mem (r : ExampleRow) (flag : List String × List String → Bool)
    (keys : List (List String × List String)) (hkeys : keys.Nodup) (h : (r.cells, r.tags) ∈ keys) :
    mergeRow r (keys.map fun k => ⟨k.1, k.2, flag k⟩) = keys.map (flagged r flag) := by
  induction keys with
  | nil => cases h
  | cons k rest ih =>
    obtain ⟨hk, hrest⟩ := List.nodup_cons.mp hkeys
    rw [List.map_cons, mergeRow, List.map_cons]
    by_cases hrk : k = (r.cells, r.tags)
    · subst hrk
      have kept : ∀ k ∈ rest, (⟨k.1, k.2, flag k⟩ : ExampleRow) = flagged r flag k := by
        intro k hmem
        have hne : k ≠ (r.cells, r.tags) := fun he => hk (he ▸ hmem)
        rw [flagged, if_neg hne]
      rw [if_pos ⟨rfl, rfl⟩, List.map_congr_left kept, flagged, if_pos rfl]
    · have hne : ¬r.Agrees ⟨k.1, k.2, flag k⟩ := fun he => hrk (Prod.ext he.1.symm he.2.symm)
      have hmem : (r.cells, r.tags) ∈ rest := (List.mem_cons.mp h).resolve_left (Ne.symm hrk)
      rw [if_neg hne, ih hrest hmem, flagged, if_neg hrk]

/-- One more row at the end is merged into the others. -/
theorem mergedRows_concat (rows : List ExampleRow) (r : ExampleRow) :
    mergedRows (rows ++ [r]) = mergeRow r (mergedRows rows) := by
  have hflag : ∀ k : List String × List String,
      (⟨k.1, k.2, lastIgnored (rows ++ [r]) k.1 k.2⟩ : ExampleRow) =
        flagged r (fun k => lastIgnored rows k.1 k.2) k := by
    intro k
    unfold flagged
    split
    · next h =>
      subst h
      rw [lastIgnored_concat_same]
    · next h => rw [lastIgnored_concat_other rows r k.1 k.2 (Ne.symm h)]
  have hmerged : mergedRows (rows ++ [r]) =
      (distinct [] (rows.map (fun r => (r.cells, r.tags)) ++ [(r.cells, r.tags)])).map
        (flagged r fun k => lastIgnored rows k.1 k.2) := by
    unfold mergedRows
    rw [List.map_append, List.map_singleton]
    exact List.map_congr_left fun k _ => hflag k
  rw [hmerged]
  by_cases h : (r.cells, r.tags) ∈ rows.map fun r => (r.cells, r.tags)
  · rw [distinct_concat_of_mem _ _ h]
    exact (mergeRow_of_mem r _ _ (distinct_nodup _ _) ((mem_distinct _ _ _).mpr ⟨h, by simp⟩)).symm
  · rw [distinct_concat_of_not_mem _ _ h]
    exact (mergeRow_of_not_mem r _ _ fun hk => h ((mem_distinct _ _ _).mp hk).1).symm

end CrossBrowser
