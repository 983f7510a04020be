import CrossBrowser.Document.Json.Readable
import Mathlib.Data.List.Forall2
import Mathlib.Data.List.Nodup

/-! Records some fields of which may be left out.

A record is written with its fields in order, and a field that may be left out is written or not
(`Kept`). A field that is written is looked up as it was written, and one that is left out is not
found, so reading gives the same whether or not it is there as long as its value is read as the
default (`Kept.field`). -/
namespace CrossBrowser.Document

/-- A field that a record may be written with. -/
structure RecordField (ν : Type) where
  name : String
  value : ν
  /-- Whether the field may be left out. -/
  spare : Prop

/-- What is written of these fields: all of them, but for some of those that may be left out. -/
inductive Kept {ν : Type} : List (RecordField ν) → List (String × ν) → Prop where
  | nil : Kept [] []
  | keep (f : RecordField ν) {fs : List (RecordField ν)} {ms : List (String × ν)} (h : Kept fs ms) :
    Kept (f :: fs) ((f.name, f.value) :: ms)
  | leaveOut (f : RecordField ν) {fs : List (RecordField ν)} {ms : List (String × ν)}
    (hspare : f.spare) (h : Kept fs ms) : Kept (f :: fs) ms

theorem mapM_eq_some {α β : Type} {f : α → Option β} {g : α → β} {xs : List α}
    (h : ∀ x ∈ xs, f x = some (g x)) : xs.mapM f = some (xs.map g) := by
  induction xs with
  | nil => rfl
  | cons x rest ih =>
    rw [List.mapM_cons, h x List.mem_cons_self, ih fun y hy => h y (List.mem_cons_of_mem x hy)]
    rfl

/-- Entries whose names are known and differ are all kept. -/
theorem knownEntries?_eq_some {α : Type} (strict : Bool) (known : List String)
    (entries : List (String × α)) (hknown : ∀ entry ∈ entries, entry.1 ∈ known)
    (hnodup : (entries.map (·.1)).Nodup) : knownEntries? strict known entries = some entries := by
  induction entries with
  | nil => rfl
  | cons entry rest ih =>
    obtain ⟨hnew, hrest⟩ := List.nodup_cons.mp hnodup
    have hfresh : ¬rest.any (·.1 == entry.1) = true := by
      rw [List.any_eq_true]
      rintro ⟨other, hother, he⟩
      exact hnew (List.mem_map.mpr ⟨other, hother, eq_of_beq he⟩)
    rw [knownEntries?, if_pos (hknown entry List.mem_cons_self), if_neg hfresh,
      ih (fun other hother => hknown other (List.mem_cons_of_mem entry hother)) hrest]
    rfl

namespace Kept
variable {ν μ : Type} {fs : List (RecordField ν)} {ms : List (String × ν)}

theorem all (fs : List (RecordField ν)) : Kept fs (fs.map fun f => (f.name, f.value)) := by
  induction fs with
  | nil => exact .nil
  | cons f rest ih => exact .keep f ih

theorem exists_of_mem (h : Kept fs ms) : ∀ m ∈ ms, ∃ f ∈ fs, m = (f.name, f.value) := by
  induction h with
  | nil => exact fun _ hm => absurd hm List.not_mem_nil
  | keep f _ ih =>
    intro m hm
    rcases List.mem_cons.mp hm with rfl | hm
    · exact ⟨f, List.mem_cons_self, rfl⟩
    · obtain ⟨f', hf', he⟩ := ih m hm
      exact ⟨f', List.mem_cons_of_mem f hf', he⟩
  | leaveOut f _ _ ih =>
    intro m hm
    obtain ⟨f', hf', he⟩ := ih m hm
    exact ⟨f', List.mem_cons_of_mem f hf', he⟩

theorem names_sublist (h : Kept fs ms) : (ms.map (·.1)).Sublist (fs.map (·.name)) := by
  induction h with
  | nil => exact List.Sublist.refl []
  | keep f _ ih => exact ih.cons_cons f.name
  | leaveOut f _ _ ih => exact ih.cons f.name

/-- What is written of fields with other values. -/
theorem mapValues (g : ν → μ) (h : Kept fs ms) :
    Kept (fs.map fun f => ⟨f.name, g f.value, f.spare⟩) (ms.map fun m => (m.1, g m.2)) := by
  induction h with
  | nil => exact .nil
  | keep f _ ih => exact .keep ⟨f.name, g f.value, f.spare⟩ ih
  | leaveOut f hspare _ ih => exact .leaveOut ⟨f.name, g f.value, f.spare⟩ hspare ih

theorem knownEntries? (h : Kept fs ms) (strict : Bool) (hnodup : (fs.map (·.name)).Nodup) :
    Document.knownEntries? strict (fs.map (·.name)) ms = some ms := by
  refine knownEntries?_eq_some strict _ ms (fun m hm => ?_) (hnodup.sublist h.names_sublist)
  exact h.names_sublist.subset (List.mem_map_of_mem hm)

theorem lookup_eq_none (h : Kept fs ms) {name : String} (hname : name ∉ fs.map (·.name)) :
    ms.lookup name = none := by
  rw [List.lookup_eq_none_iff]
  intro m hm
  have hmem := h.names_sublist.subset (List.mem_map_of_mem hm)
  exact bne_iff_ne.mpr fun he => hname (he ▸ hmem)

/-- A field that may be written is found as it is written, or it is left out. -/
theorem lookup (h : Kept fs ms) (hnodup : (fs.map (·.name)).Nodup) (f : RecordField ν)
    (hf : f ∈ fs) : ms.lookup f.name = some f.value ∨ f.spare ∧ ms.lookup f.name = none := by
  induction h with
  | nil => cases hf
  | keep g h ih =>
    obtain ⟨hnew, hrest⟩ := List.nodup_cons.mp hnodup
    rcases List.mem_cons.mp hf with rfl | hf
    · exact .inl List.lookup_cons_self
    · have hne : f.name ≠ g.name := fun he => hnew (List.mem_map.mpr ⟨f, hf, he⟩)
      rw [List.lookup_cons, beq_false_of_ne hne]
      exact ih hrest hf
  | leaveOut g hspare h ih =>
    obtain ⟨hnew, hrest⟩ := List.nodup_cons.mp hnodup
    rcases List.mem_cons.mp hf with rfl | hf
    · exact .inr ⟨hspare, h.lookup_eq_none hnew⟩
    · exact ih hrest hf

/-- A field is read as its value is, if it is read so where it is written, and where it may be left
out its value is the default. -/
theorem field {α : Type} (h : Kept fs ms) (hnodup : (fs.map (·.name)).Nodup) (f : RecordField ν)
    (hf : f ∈ fs) (x default : α) (read : ν → Option α) (hread : read f.value = some x)
    (hspare : f.spare → x = default) : Readable.field ms f.name default read = some x := by
  unfold Readable.field
  rcases h.lookup hnodup f hf with hfound | ⟨hout, hfound⟩
  · rw [hfound]
    exact hread
  · rw [hfound]
    exact congrArg some (hspare hout).symm

/-- A field that may not be left out is read as its value is. -/
theorem required {α : Type} (h : Kept fs ms) (hnodup : (fs.map (·.name)).Nodup) (f : RecordField ν)
    (hf : f ∈ fs) (x : α) (read : ν → Option α) (hread : read f.value = some x)
    (hspare : ¬f.spare) : Readable.required ms f.name read = some x := by
  unfold Readable.required
  rw [(h.lookup hnodup f hf).resolve_right fun hout => hspare hout.1]
  exact hread

end Kept

namespace Json

theorem each_eq_some {α β : Type} {read : α → Option β} {vs : List α} {xs : List β}
    (h : List.Forall₂ (fun v x => read v = some x) vs xs) : Readable.each read vs = some xs := by
  induction h with
  | nil => rfl
  | cons hv _ ih =>
    rw [Readable.each, hv, ih]
    rfl

/-- An array is read as the list of what its items are read as. -/
theorem list_array {β : Type} {read : Json → Option β} {vs : List Json} {xs : List β}
    (h : List.Forall₂ (fun v x => read v = some x) vs xs) :
    Readable.list read (.array vs) = some xs := each_eq_some h

theorem texts_texts (xs : List String) : Readable.texts (texts xs) = some xs := by
  refine list_array ?_
  rw [List.forall₂_map_left_iff, List.forall₂_same]
  exact fun _ _ => rfl

/-- The fields of a record, if all of them are known and differ. -/
theorem fields_record {fs : List (RecordField Json)} {ms : List (String × Json)} (h : Kept fs ms)
    (hnodup : (fs.map (·.name)).Nodup) :
    (Readable.fields false (fs.map (·.name)) (record ms) : Option (List (String × Json))) =
      some ms := by
  have hnamed : namedMembers? (ms.map fun m => (some m.1, m.2)) = some ms := by
    rw [namedMembers?, List.mapM_map]
    exact (mapM_eq_some fun m _ => rfl).trans (congrArg some (List.map_id ms))
  show (namedMembers? (ms.map fun m => (some m.1, m.2))).bind (Document.knownEntries? false _) = _
  rw [hnamed, Option.bind_some, h.knownEntries? false hnodup]

end Json
end CrossBrowser.Document
