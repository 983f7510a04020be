import CrossBrowser.Proofs.Path.Joining

/-! Files side by side in one folder.

A path that is put together from a base, folders and a name is a text before the name, which is the
same for all names (`join_names_eq_append`). So files side by side have one parent, down to how it
is written (`parent?_siblings`). -/
namespace CrossBrowser.Path

/-- A text that a name can follow: nothing, or one that ends in a slash. -/
def Opens (s : String) : Prop := s = "" ∨ ∃ v, s = v ++ "/"

theorem Opens.append {s s' : String} (h : Opens s) (h' : Opens s') : Opens (s ++ s') := by
  rcases h' with rfl | ⟨v, rfl⟩
  · rwa [String.append_empty]
  · exact .inr ⟨s ++ v, String.append_assoc.symm⟩

/-- Names with slashes between them are what comes before the last, and the last. -/
theorem intercalate_concat_eq_append (folders : List String) :
    ∃ s, Opens s ∧ ∀ name, "/".intercalate (folders ++ [name]) = s ++ name := by
  induction folders with
  | nil => exact ⟨"", .inl rfl, fun name => by simp⟩
  | cons folder rest ih =>
    obtain ⟨s, hs, hrest⟩ := ih
    refine ⟨folder ++ "/" ++ s, Opens.append (.inr ⟨folder, rfl⟩) hs, fun name => ?_⟩
    have hcons : "/".intercalate (folder :: (rest ++ [name])) =
        folder ++ "/" ++ "/".intercalate (rest ++ [name]) := by
      cases rest <;> exact String.intercalate_cons_cons
    rw [List.cons_append, hcons, hrest, ← String.append_assoc]

/-- Joining a relative path puts its text after one that it can follow. -/
theorem join_eq_append (p : Path) :
    ∃ s, Opens s ∧ ∀ q : Path, q.isAbsolute = false → p.join q = ⟨s ++ q.text⟩ := by
  by_cases hempty : p.text = ""
  · refine ⟨"", .inl rfl, fun q hrel => ?_⟩
    rw [join, if_neg (Bool.eq_false_iff.mp hrel), if_pos (.inl hempty), hempty]
  · by_cases hslash : p.text.toList.getLast? = some '/'
    · obtain ⟨cs, hcs⟩ := List.getLast?_eq_some_iff.mp hslash
      refine ⟨p.text, .inr ⟨String.ofList cs, ?_⟩, fun q hrel => ?_⟩
      · rw [← String.toList_inj, hcs, String.toList_append, String.toList_ofList]
        rfl
      · rw [join, if_neg (Bool.eq_false_iff.mp hrel), if_pos (.inr hslash)]
    · refine ⟨p.text ++ "/", .inr ⟨p.text, rfl⟩, fun q hrel => ?_⟩
      rw [join, if_neg (Bool.eq_false_iff.mp hrel), if_neg (not_or.mpr ⟨hempty, hslash⟩)]

theorem join_names_eq_append (p : Path) (folders : List String)
    (hfolders : ∀ folder ∈ folders, ProperName folder) :
    ∃ s, Opens s ∧ ∀ name, ProperName name →
      p.join ⟨"/".intercalate (folders ++ [name])⟩ = ⟨s ++ name⟩ := by
  obtain ⟨s, hs, hjoin⟩ := join_eq_append p
  obtain ⟨s', hs', hnames⟩ := intercalate_concat_eq_append folders
  refine ⟨s ++ s', hs.append hs', fun name hname => ?_⟩
  have hproper : ∀ n ∈ folders ++ [name], ProperName n := by
    intro n hn
    rcases List.mem_append.mp hn with hn | hn
    · exact hfolders n hn
    · exact List.mem_singleton.mp hn ▸ hname
  rw [hjoin _ (ofNames_spec _ hproper).1, hnames, String.append_assoc]

/-- A path whose last part is a name has the path of the parts before it for its parent. -/
theorem parent?_of_parts (p : Path) (before : List String) (name : String) (hname : ProperName name)
    (h : p.parts = before ++ [name]) :
    p.parent? =
      some (ofReversedParts p.isAbsolute (dropSilentEnd (!p.isAbsolute) before.reverse)) := by
  have hsaid : ∀ begins, isSilent begins name = false := by
    intro begins
    simp [isSilent, hname.ne_empty, hname.ne_here]
  have hreversed : p.reversedParts = name :: before.reverse := by
    rw [reversedParts, h, List.reverse_append, List.reverse_singleton, List.singleton_append,
      dropSilentEnd, if_neg (Bool.eq_false_iff.mp (hsaid _))]
  rw [parent?, hreversed]

theorem partsOf_name (name : String) (h : ProperName name) : partsOf name = [name] := by
  have hparts := partsOf_intercalate [name] (List.cons_ne_nil name [])
    fun n hn => (List.mem_singleton.mp hn ▸ h.no_slash)
  rwa [String.intercalate_singleton] at hparts

theorem isAbsolute_name (name : String) (h : ProperName name) :
    (⟨name⟩ : Path).isAbsolute = false := by
  obtain ⟨hrel, -⟩ := ofNames_spec [name] fun n hn => List.mem_singleton.mp hn ▸ h
  rwa [String.intercalate_singleton] at hrel

/-- What a name follows tells the parent. -/
theorem parent?_append_name (s : String) (h : Opens s) :
    ∃ q, ∀ name, ProperName name → (⟨s ++ name⟩ : Path).parent? = some q := by
  rcases h with rfl | ⟨v, rfl⟩
  · refine ⟨ofReversedParts false [], fun name hname => ?_⟩
    have hrel := isAbsolute_name name hname
    have hparts : (⟨name⟩ : Path).parts = [] ++ [name] := by
      rw [parts_of_relative _ hrel, partsOf_name name hname, List.nil_append]
    rw [String.empty_append, parent?_of_parts ⟨name⟩ [] name hname hparts, hrel]
    rfl
  · generalize habs : (⟨v ++ "/"⟩ : Path).isAbsolute = absolute
    refine ⟨ofReversedParts absolute (dropSilentEnd (!absolute)
      (if absolute then (partsOf v).drop 1 else partsOf v).reverse), fun name hname => ?_⟩
    have habs' : (⟨v ++ "/" ++ name⟩ : Path).isAbsolute = absolute := by
      have hne : v ++ "/" ≠ "" := fun he =>
        absurd (String.append_eq_empty_iff.mp he).2 (by decide)
      rw [isAbsolute_append _ _ hne, habs]
    have hraw : (⟨v ++ "/" ++ name⟩ : Path).rawParts = partsOf v ++ [name] := by
      show partsOf (v ++ "/" ++ name) = _
      rw [partsOf_append_slash, partsOf_name name hname]
    have hparts : (⟨v ++ "/" ++ name⟩ : Path).parts =
        (if absolute then (partsOf v).drop 1 else partsOf v) ++ [name] := by
      rw [parts, habs', hraw]
      cases absolute with
      | false => rfl
      | true => exact List.drop_append_of_le_length (List.length_pos_of_ne_nil (partsOf_ne_nil v))
    rw [parent?_of_parts _ _ name hname hparts, habs']

/-- Files side by side have one parent. -/
theorem parent?_siblings (p : Path) (folders : List String) (name name' : String)
    (hfolders : ∀ folder ∈ folders, ProperName folder) (hname : ProperName name)
    (hname' : ProperName name') :
    (p.join ⟨"/".intercalate (folders ++ [name])⟩).parent? =
      (p.join ⟨"/".intercalate (folders ++ [name'])⟩).parent? := by
  obtain ⟨s, hs, hjoin⟩ := join_names_eq_append p folders hfolders
  obtain ⟨q, hq⟩ := parent?_append_name s hs
  rw [hjoin name hname, hjoin name' hname', hq name hname, hq name' hname']

end CrossBrowser.Path
