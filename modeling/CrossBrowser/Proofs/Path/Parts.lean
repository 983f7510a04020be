import CrossBrowser.Path
import CrossBrowser.Proofs.Text.Splitting

/-! The parts of a path and the components they stand for.

Cutting a text at its slashes and putting the parts together again are inverse to each other as long
as no part has a slash in it. What a path means is in its components alone: silent parts can be
dropped from its end, and each part that is left says one component (`componentsOf_concat`). -/
namespace CrossBrowser.Path

/-! ### Cutting at slashes -/

/-- The parts of a text between its slashes. -/
def partsOf (text : String) : List String := (text.toList.splitOn '/').map String.ofList

theorem slash_not_mem (text part : String) (h : part ∈ partsOf text) : '/' ∉ part.toList := by
  obtain ⟨l, hl, rfl⟩ := List.mem_map.mp h
  rw [String.toList_ofList]
  intro hslash
  have hcut := Text.of_mem_splitOnP hl '/' hslash
  exact absurd hcut (by decide)

theorem mem_of_mem_partsOf (text part : String) (h : part ∈ partsOf text) :
    ∀ c ∈ part.toList, c ∈ text.toList := by
  obtain ⟨l, hl, rfl⟩ := List.mem_map.mp h
  rw [String.toList_ofList]
  exact Text.mem_of_mem_splitOnP hl

theorem partsOf_ne_nil (text : String) : partsOf text ≠ [] := by
  simp [partsOf]

theorem partsOf_append_slash (s x : String) : partsOf (s ++ "/" ++ x) = partsOf s ++ partsOf x := by
  have h : (s ++ "/" ++ x).toList = s.toList ++ '/' :: x.toList := by
    simp [String.toList_append]
  rw [partsOf, h, List.splitOn_append_cons_self, List.map_append]
  rfl

theorem partsOf_intercalate (parts : List String) (hne : parts ≠ [])
    (hslash : ∀ part ∈ parts, '/' ∉ part.toList) : partsOf ("/".intercalate parts) = parts := by
  rw [partsOf, Text.splitOn_intercalate rfl hne hslash, List.map_map]
  simp [Function.comp_def]

/-! ### The components of parts -/

/-- The component that a part says, if it says one. -/
def Component.said (part : String) : Component :=
  if part = "." then .here else if part = ".." then .up else .name part

theorem ofPart?_of_silent (begins : Bool) (part : String) (h : isSilent begins part = true) :
    Component.ofPart? begins part = none := by
  rw [Component.ofPart?, if_pos h]

theorem ofPart?_of_said (begins : Bool) (part : String) (h : isSilent begins part = false) :
    Component.ofPart? begins part = some (.said part) := by
  rw [Component.ofPart?, if_neg (Bool.eq_false_iff.mp h), Component.said]
  split
  · rfl
  · split <;> rfl

theorem componentsOf_false (parts : List String) :
    componentsOf false parts = parts.filterMap (Component.ofPart? false) := by
  cases parts with
  | nil => rfl
  | cons part rest => cases h : Component.ofPart? false part <;> simp [componentsOf, h]

theorem componentsOf_singleton (relative : Bool) (part : String) :
    componentsOf relative [part] = (Component.ofPart? relative part).toList := by
  simp [componentsOf]

/-- Only the first part can begin a relative path. -/
theorem componentsOf_append (relative : Bool) (xs ys : List String) (h : xs ≠ []) :
    componentsOf relative (xs ++ ys) = componentsOf relative xs ++ componentsOf false ys := by
  obtain ⟨x, rest, rfl⟩ := List.exists_cons_of_ne_nil h
  rw [componentsOf_false, List.cons_append, componentsOf, componentsOf, List.filterMap_append,
    List.append_assoc]

/-- One more part at the end says its component or nothing. -/
theorem componentsOf_concat (relative : Bool) (parts : List String) (part : String) :
    componentsOf relative (parts ++ [part]) =
      componentsOf relative parts ++
        (Component.ofPart? (relative && parts.isEmpty) part).toList := by
  cases parts with
  | nil =>
    rw [List.nil_append, componentsOf_singleton, List.isEmpty_nil, Bool.and_true]
    rfl
  | cons first rest =>
    rw [componentsOf_append _ _ _ (List.cons_ne_nil first rest), componentsOf_singleton,
      List.isEmpty_cons, Bool.and_false]

/-- A relative path that begins with another part than a dot means the same after other parts. -/
theorem componentsOf_true (parts : List String) (h : parts.head? ≠ some ".") :
    componentsOf true parts = componentsOf false parts := by
  cases parts with
  | nil => rfl
  | cons part rest =>
    have hpart : part ≠ "." := fun he => h (congrArg some he)
    simp [componentsOf, Component.ofPart?, isSilent, hpart]

/-! ### Silent parts at the end -/

theorem dropSilentEnd_suffix (relative : Bool) (rs : List String) :
    dropSilentEnd relative rs <:+ rs := by
  induction rs with
  | nil => exact List.suffix_rfl
  | cons part before ih =>
    unfold dropSilentEnd
    split
    · exact ih.trans (List.suffix_cons part before)
    · exact List.suffix_rfl

theorem dropSilentEnd_said (relative : Bool) (rs : List String) (part : String)
    (before : List String) (h : dropSilentEnd relative rs = part :: before) :
    isSilent (relative && before.isEmpty) part = false := by
  induction rs with
  | nil => cases h
  | cons p rest ih =>
    unfold dropSilentEnd at h
    split at h
    · exact ih h
    · next hp =>
      obtain ⟨rfl, rfl⟩ := List.cons.inj h
      exact Bool.eq_false_iff.mpr hp

/-- Silent parts at the end do not matter. -/
theorem componentsOf_dropSilentEnd (relative : Bool) (rs : List String) :
    componentsOf relative (dropSilentEnd relative rs).reverse = componentsOf relative rs.reverse := by
  induction rs with
  | nil => rfl
  | cons part before ih =>
    unfold dropSilentEnd
    split
    · next h =>
      rw [ih, List.reverse_cons, componentsOf_concat, List.isEmpty_reverse,
        ofPart?_of_silent _ _ h, Option.toList_none, List.append_nil]
    · rfl

end CrossBrowser.Path
