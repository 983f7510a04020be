import CrossBrowser.FileTree
import CrossBrowser.Proofs.Path.Components

/-! Where paths lead in a tree of files.

If a path can be followed at all, where it leads depends on its components alone (`placeOf`). A tree
that has grown (`Grows`), however its files have changed, still leads every path that could be
followed to the same place. -/
namespace CrossBrowser

def Path.Component.lead (l : Location) : Path.Component → Location
  | .top => []
  | .here => l
  | .up => l.dropLast
  | .name n => l ++ [n]

namespace FileTree
open CrossBrowser.Path

/-- Where components lead from a location. -/
def placeOf (l : Location) (components : List Component) : Location :=
  components.foldl Component.lead l

theorem placeOf_append (l : Location) (xs ys : List Component) :
    placeOf l (xs ++ ys) = placeOf (placeOf l xs) ys :=
  List.foldl_append

theorem placeOf_names (l : Location) (names : List String) :
    placeOf l (names.map .name) = l ++ names := by
  induction names generalizing l with
  | nil => exact (List.append_nil l).symm
  | cons name rest ih =>
    show placeOf (l ++ [name]) (rest.map .name) = l ++ name :: rest
    rw [ih, List.append_assoc, List.singleton_append]

theorem stepTo_eq (begins : Bool) (l : Location) (part : String) :
    stepTo l part = placeOf l (Component.ofPart? begins part).toList := by
  unfold stepTo
  by_cases hsilent : part = "" ∨ part = "."
  · rw [if_pos hsilent]
    rcases hsilent with rfl | rfl <;> cases begins <;> rfl
  · rw [if_neg hsilent]
    obtain ⟨hempty, hdot⟩ := not_or.mp hsilent
    have hsaid : isSilent begins part = false := by
      simp [isSilent, hempty, hdot]
    rw [ofPart?_of_said _ _ hsaid, Component.said, if_neg hdot]
    split <;> rfl

theorem foldl_stepTo (relative : Bool) (l : Location) (parts : List String) :
    parts.foldl stepTo l = placeOf l (componentsOf relative parts) := by
  induction parts generalizing relative l with
  | nil => rfl
  | cons part rest ih =>
    rw [List.foldl_cons, ih false, componentsOf, placeOf_append, ← stepTo_eq, componentsOf_false]

theorem follow?_eq (t : FileTree) (l k : Location) (parts : List String)
    (h : t.follow? l parts = some k) : k = parts.foldl stepTo l := by
  induction parts generalizing l with
  | nil => exact (Option.some.inj h).symm
  | cons part rest ih =>
    unfold follow? at h
    split at h
    · exact ih (stepTo l part) h
    · cases h

theorem follow?_append (t : FileTree) (l : Location) (xs ys : List String) :
    t.follow? l (xs ++ ys) = (t.follow? l xs).bind (t.follow? · ys) := by
  induction xs generalizing l with
  | nil => rfl
  | cons part rest ih =>
    rw [List.cons_append, follow?, follow?]
    split
    · exact ih (stepTo l part)
    · rfl

theorem placeOf_components (t : FileTree) (p : Path) :
    placeOf t.workingDirectory p.components = p.parts.foldl stepTo (t.startOf p) := by
  rw [components_eq, placeOf_append, foldl_stepTo (!p.isAbsolute)]
  unfold startOf
  cases p.isAbsolute <;> rfl

/-- A path that can be followed leads where its components do. -/
theorem locate?_eq (t : FileTree) (p : Path) (l : Location) (h : t.locate? p = some l) :
    l = placeOf t.workingDirectory p.components := by
  unfold locate? at h
  split at h
  · rw [placeOf_components]
    exact follow?_eq t _ l p.parts h
  · cases h

/-! ### Trees that grow -/

/-- A tree that holds more than before: what was there is still there, directories as directories. -/
structure Grows (t t' : FileTree) : Prop where
  workingDirectory : t'.workingDirectory = t.workingDirectory
  directories : ∀ l, t.isDirectory l = true → t'.isDirectory l = true
  occupied : ∀ l, (t.occupant? l).isSome → (t'.occupant? l).isSome

theorem Grows.refl (t : FileTree) : t.Grows t := ⟨rfl, fun _ h => h, fun _ h => h⟩

theorem Grows.trans {t u v : FileTree} (h₁ : t.Grows u) (h₂ : u.Grows v) : t.Grows v :=
  ⟨h₂.workingDirectory.trans h₁.workingDirectory,
    fun l h => h₂.directories l (h₁.directories l h),
    fun l h => h₂.occupied l (h₁.occupied l h)⟩

theorem Grows.follow? {t t' : FileTree} (hg : t.Grows t') (l k : Location) (parts : List String)
    (h : t.follow? l parts = some k) : t'.follow? l parts = some k := by
  induction parts generalizing l with
  | nil => exact h
  | cons part rest ih =>
    unfold FileTree.follow? at h ⊢
    split at h
    · next hstep =>
      obtain ⟨hdir, hname⟩ := Bool.and_eq_true_iff.mp hstep
      rw [if_pos (Bool.and_eq_true_iff.mpr ⟨hg.directories l hdir, hname⟩)]
      exact ih (stepTo l part) h
    · cases h

theorem Grows.startOf {t t' : FileTree} (hg : t.Grows t') (p : Path) :
    t'.startOf p = t.startOf p := by
  rw [FileTree.startOf, FileTree.startOf, hg.workingDirectory]

theorem Grows.locate? {t t' : FileTree} (hg : t.Grows t') (p : Path) (l : Location)
    (h : t.locate? p = some l) : t'.locate? p = some l := by
  unfold FileTree.locate? at h ⊢
  split at h
  · next husable =>
    rw [if_pos husable, hg.startOf]
    exact hg.follow? _ l p.parts h
  · cases h

theorem find?_eq_some_iff (t : FileTree) (p : Path) (l : Location) :
    t.find? p = some l ↔ t.locate? p = some l ∧ (t.occupant? l).isSome :=
  Option.filter_eq_some_iff

theorem Grows.find? {t t' : FileTree} (hg : t.Grows t') (p : Path) (l : Location)
    (h : t.find? p = some l) : t'.find? p = some l := by
  obtain ⟨hlocate, hoccupied⟩ := (find?_eq_some_iff t p l).mp h
  exact (find?_eq_some_iff t' p l).mpr ⟨hg.locate? p l hlocate, hg.occupied l hoccupied⟩

theorem resolve?_eq_some_iff (t : FileTree) (p : Path) (l : Location) :
    t.resolve? p = some l ↔ (p.text ≠ "" ∧ '\x00' ∉ p.text.toList) ∧
      t.follow? (t.startOf p) p.parts = some l ∧ (t.occupant? l).isSome := by
  unfold resolve?
  split
  · next h => rw [Option.filter_eq_some_iff, and_iff_right h]
  · next h => exact iff_of_false (fun he => by cases he) fun he => h he.1

theorem resolve?_eq (t : FileTree) (p : Path) (l : Location) (h : t.resolve? p = some l) :
    l = placeOf t.workingDirectory p.components := by
  rw [placeOf_components]
  exact follow?_eq t _ l p.parts ((resolve?_eq_some_iff t p l).mp h).2.1

/-- A path that can be followed at once can be gone through name by name. -/
theorem resolve?_of_find? (t : FileTree) (p : Path) (l : Location) (h : t.find? p = some l) :
    t.resolve? p = some l := by
  obtain ⟨hlocate, hoccupied⟩ := (find?_eq_some_iff t p l).mp h
  unfold locate? at hlocate
  split at hlocate
  · next husable =>
    simp only [isUsable, Bool.and_eq_true, decide_eq_true_eq, Bool.not_eq_true',
      List.contains_eq_mem, decide_eq_false_iff_not] at husable
    exact (resolve?_eq_some_iff t p l).mpr ⟨⟨husable.1.1, husable.2⟩, hlocate, hoccupied⟩
  · cases hlocate

theorem Grows.resolve? {t t' : FileTree} (hg : t.Grows t') (p : Path) (l : Location)
    (h : t.resolve? p = some l) : t'.resolve? p = some l := by
  obtain ⟨htext, hfollow, hoccupied⟩ := (resolve?_eq_some_iff t p l).mp h
  refine (resolve?_eq_some_iff t' p l).mpr ⟨htext, ?_, hg.occupied l hoccupied⟩
  rw [hg.startOf]
  exact hg.follow? _ l p.parts hfollow

/-- Paths are the same file if they denote the same thing or have the same components. -/
theorem sameFile_iff (t : FileTree) (p q : Path) :
    t.sameFile p q = true ↔
      (∃ l, t.resolve? p = some l ∧ t.resolve? q = some l) ∨ p.components = q.components := by
  unfold sameFile
  cases hp : t.resolve? p with
  | none => simp [same]
  | some l =>
    cases hq : t.resolve? q with
    | none => simp [same]
    | some k =>
      show (l == k) = true ↔ _
      rw [beq_iff_eq]
      constructor
      · rintro rfl
        exact .inl ⟨l, rfl, rfl⟩
      · rintro (⟨m, hl, hk⟩ | h)
        · rw [Option.some.inj hl, Option.some.inj hk]
        · rw [resolve?_eq t p l hp, resolve?_eq t q k hq, h]

/-- Paths that denote the same thing still do in a tree that has grown. -/
theorem Grows.sameFile {t t' : FileTree} (hg : t.Grows t') (p q : Path)
    (h : t.sameFile p q = true) : t'.sameFile p q = true := by
  rw [sameFile_iff] at h ⊢
  refine h.imp_left fun ⟨l, hp, hq⟩ => ?_
  exact ⟨l, hg.resolve? p l hp, hg.resolve? q l hq⟩

end FileTree
end CrossBrowser
