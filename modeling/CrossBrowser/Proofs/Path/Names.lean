import CrossBrowser.Proofs.Path.Components
import Mathlib.Data.List.TakeDrop
import Mathlib.Data.List.TakeWhile

/-! File names, stems and extensions.

A name with an extension is its stem, a dot and its extension, of which only the stem can have
further dots; so stem and extension tell the name and the name tells them. -/
namespace CrossBrowser.Path

theorem splitName_of_append (stem extension : String) (hstem : stem ≠ "")
    (hdot : '.' ∉ extension.toList) :
    splitName (stem ++ "." ++ extension) = (stem, some extension) := by
  have hname : (stem ++ "." ++ extension).toList.reverse =
      extension.toList.reverse ++ '.' :: stem.toList.reverse := by
    simp [String.toList_append]
  have hall : ∀ c ∈ extension.toList.reverse, decide (c ≠ '.') = true := by
    intro c hc
    exact decide_eq_true fun he => hdot (he ▸ List.mem_reverse.mp hc)
  have hspan : (stem ++ "." ++ extension).toList.reverse.span (· ≠ '.') =
      (extension.toList.reverse, '.' :: stem.toList.reverse) := by
    rw [hname, List.span_eq_takeWhile_dropWhile, List.takeWhile_append_of_pos hall,
      List.dropWhile_append_of_pos hall]
    simp
  obtain ⟨c, rest, hrest⟩ : ∃ c rest, stem.toList.reverse = c :: rest :=
    List.exists_cons_of_ne_nil (by simpa using hstem)
  unfold splitName
  rw [hspan, hrest]
  show (String.ofList (c :: rest).reverse, some (String.ofList extension.toList.reverse.reverse)) = _
  rw [← hrest, List.reverse_reverse, List.reverse_reverse, String.ofList_toList,
    String.ofList_toList]

theorem append_of_splitName (name stem extension : String)
    (h : splitName name = (stem, some extension)) :
    name = stem ++ "." ++ extension ∧ stem ≠ "" ∧ '.' ∉ extension.toList := by
  unfold splitName at h
  rw [List.span_eq_takeWhile_dropWhile] at h
  have hsplit := List.takeWhile_append_dropWhile (p := (· ≠ '.')) (l := name.toList.reverse)
  have hafter : ∀ c ∈ name.toList.reverse.takeWhile (· ≠ '.'), c ≠ '.' := by
    intro c hc
    have hne := List.mem_takeWhile_imp hc
    simpa using hne
  cases hbefore : name.toList.reverse.dropWhile (· ≠ '.') with
  | nil =>
    simp only [hbefore] at h
    cases h
  | cons dot rest =>
    have hdot : dot = '.' := by
      have hhead := List.head?_dropWhile_not (fun c => decide (c ≠ '.')) name.toList.reverse
      rw [hbefore] at hhead
      simpa using hhead
    cases rest with
    | nil =>
      simp only [hbefore] at h
      cases h
    | cons c stemReversed =>
      simp only [hbefore] at h
      obtain ⟨rfl, hextension⟩ := Prod.mk.inj h
      obtain rfl := Option.some.inj hextension
      refine ⟨?_, ?_, ?_⟩
      · rw [hbefore, hdot] at hsplit
        have hname := congrArg List.reverse hsplit
        rw [List.reverse_reverse] at hname
        refine String.toList_inj.mp (hname.symm.trans ?_)
        simp [String.toList_append]
      · simp
      · rw [String.toList_ofList]
        exact fun hmem => hafter '.' (List.mem_reverse.mp hmem) rfl

end CrossBrowser.Path
