import CrossBrowser.Proofs.Naming.Characters
import Mathlib.Data.List.Nodup

/-! The names of parameters keep clear of the names that are taken, and of each other.

A column tries one name more than there are taken ones, and these names differ from each other
(`candidates_nodup`), so one of them is free. It is taken for the columns after it. Escaping keeps
the names apart, because none of them has an `@` in it before (`unescape_escape`). -/
namespace CrossBrowser.Naming

theorem toString_nat_injective {i j : Nat} (h : toString i = toString j) : i = j := by
  have hdigits : Nat.toDigits 10 i = Nat.toDigits 10 j := by
    rw [Nat.toString_eq_ofList_toDigits, Nat.toString_eq_ofList_toDigits] at h
    exact String.ofList_injective h
  rw [← Nat.ofDigitChars_ten_toDigits (n := i), hdigits, Nat.ofDigitChars_ten_toDigits]

theorem append_toString_ne (base : String) (i : Nat) : base ++ toString i ≠ base := by
  intro h
  have hlist := congrArg String.toList h
  rw [String.toList_append, Nat.toString_eq_ofList_toDigits, String.toList_ofList] at hlist
  exact Nat.toDigits_ne_nil (List.append_right_eq_self.mp hlist)

theorem append_toString_injective (base : String) {i j : Nat}
    (h : base ++ toString i = base ++ toString j) : i = j := by
  have hlist := congrArg String.toList h
  rw [String.toList_append, String.toList_append] at hlist
  exact toString_nat_injective (String.toList_inj.mp (List.append_cancel_left hlist))

theorem candidates_nodup (base : String) (count : Nat) : (candidates base count).Nodup := by
  refine List.nodup_cons.mpr ⟨fun h => ?_, ?_⟩
  · obtain ⟨i, _, hi⟩ := List.mem_map.mp h
    exact append_toString_ne base (i + 1) hi
  · refine List.Nodup.map (fun i j hij => ?_) List.nodup_range
    exact Nat.succ.inj (append_toString_injective base hij)

/-- The name for a column is free. -/
theorem firstFree_not_mem (taken : List String) (base : String) : firstFree taken base ∉ taken := by
  unfold firstFree
  cases hfind : (candidates base taken.length).find? (· ∉ taken) with
  | some name =>
    have hfree := List.find?_some hfind
    exact of_decide_eq_true hfree
  | none =>
    -- Were all candidates taken, there would be more taken names than there are.
    have hsub : candidates base taken.length ⊆ taken := by
      intro name hname
      have htaken := List.find?_eq_none.mp hfind name hname
      exact not_not.mp fun hn => htaken (decide_eq_true hn)
    have hle := List.Nodup.length_le_of_subset (candidates_nodup base taken.length) hsub
    simp only [candidates, List.length_cons, List.length_map, List.length_range] at hle
    omega

theorem distinctNames_not_mem (columns taken : List String) (name : String)
    (h : name ∈ distinctNames taken columns) : name ∉ taken := by
  induction columns generalizing taken with
  | nil => cases h
  | cons column rest ih =>
    rcases List.mem_cons.mp h with rfl | h
    · exact firstFree_not_mem taken _
    · exact fun hmem => ih _ h (List.mem_append_left _ hmem)

theorem distinctNames_nodup (columns taken : List String) : (distinctNames taken columns).Nodup := by
  induction columns generalizing taken with
  | nil => exact .nil
  | cons column rest ih =>
    refine List.nodup_cons.mpr ⟨fun hmem => ?_, ih _⟩
    exact distinctNames_not_mem rest _ _ hmem (List.mem_append_right _ List.mem_cons_self)

/-! ### Escaped names -/

/-- A name without the `@` in front that escapes it, if there is one. -/
def unescape (name : String) : String :=
  match name.toList with
  | '@' :: rest => String.ofList rest
  | _ => name

theorem unescape_escape {name : String} (h : ∀ c ∈ name.toList, c ≠ '@') :
    unescape (escape name) = name := by
  unfold escape
  split
  · rw [unescape, String.toList_append]
    exact String.ofList_toList
  · unfold unescape
    split
    · next rest hlist => exact absurd rfl (h '@' (hlist ▸ List.mem_cons_self))
    · rfl

/-- The parameters of columns have names that differ from each other. -/
theorem parameterNames_nodup (columns reserved : List String) :
    (parameterNames columns reserved).Nodup := by
  have hplain := inNames_ne_at.distinctNames reserved columns
  refine List.Nodup.map_on (fun a ha b hb h => ?_) (distinctNames_nodup columns reserved)
  have hunescape := congrArg unescape h
  rwa [unescape_escape (hplain a ha), unescape_escape (hplain b hb)] at hunescape

/-- No column has a reserved name for its parameter, given that no reserved name looks escaped. -/
theorem parameterNames_not_reserved (columns reserved : List String)
    (hplain : ∀ name ∈ reserved, name.toList.head? ≠ some '@') (name : String)
    (h : name ∈ parameterNames columns reserved) : name ∉ reserved := by
  obtain ⟨plain, hmem, rfl⟩ := List.mem_map.mp h
  unfold escape
  split
  · exact fun hres => hplain _ hres (by simp)
  · exact distinctNames_not_mem columns reserved plain hmem

end CrossBrowser.Naming
