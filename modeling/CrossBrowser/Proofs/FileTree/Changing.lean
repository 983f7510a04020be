import CrossBrowser.Proofs.FileTree.Locating
import Mathlib.Data.List.Nodup

/-! What making directories and writing a file change in a tree.

In a well-formed tree each location has one entry, and locations are made of proper names; every tree
that comes from the empty one by making directories and writing files is well-formed. Making
directories leaves all files alone (`AddsDirectories`), and nothing is left of it to do a second time
(`makeDirectories_again`). Writing changes the file that the path denotes and no other
(`write?_spec`). -/
namespace CrossBrowser.FileTree
open CrossBrowser.Path

/-! ### Well-formed trees -/

/-- A tree with one entry for each location, and with locations made of proper names. -/
structure WellFormed (t : FileTree) : Prop where
  nodup : (t.entries.map (·.1)).Nodup
  below : ∀ entry ∈ t.entries, entry.1 ≠ []
  proper : ∀ entry ∈ t.entries, ∀ name ∈ entry.1, ProperName name
  workingDirectory : ∀ name ∈ t.workingDirectory, ProperName name

theorem lookup_cons_of_ne {α : Type} (entries : List (Location × α)) (l k : Location) (x : α)
    (h : l ≠ k) : ((k, x) :: entries).lookup l = entries.lookup l := by
  rw [List.lookup_cons, beq_false_of_ne h]

theorem lookup_eq_some_iff {α : Type} (entries : List (Location × α))
    (hnodup : (entries.map (·.1)).Nodup) (l : Location) (e : α) :
    entries.lookup l = some e ↔ (l, e) ∈ entries := by
  induction entries with
  | nil => simp
  | cons entry rest ih =>
    obtain ⟨k, x⟩ := entry
    obtain ⟨hk, hrest⟩ := List.nodup_cons.mp hnodup
    rw [List.mem_cons]
    by_cases h : l = k
    · subst h
      rw [List.lookup_cons_self]
      constructor
      · rintro ⟨rfl⟩
        exact .inl rfl
      · rintro (he | hmem)
        · rw [(Prod.mk.inj he).2]
        · exact absurd (List.mem_map.mpr ⟨_, hmem, rfl⟩) hk
    · rw [lookup_cons_of_ne _ _ _ _ h, ih hrest]
      constructor
      · exact .inr
      · rintro (he | hmem)
        · exact absurd (Prod.mk.inj he).1 h
        · exact hmem

/-- What lies at a location other than the top is its entry. -/
theorem WellFormed.mem_entries_iff {t : FileTree} (hw : t.WellFormed) (l : Location) (e : Entry) :
    (l, e) ∈ t.entries ↔ l ≠ [] ∧ t.occupant? l = some e := by
  constructor
  · intro h
    have hl := hw.below _ h
    refine ⟨hl, ?_⟩
    rw [occupant?, if_neg hl]
    exact (lookup_eq_some_iff _ hw.nodup l e).mpr h
  · rintro ⟨hl, he⟩
    rw [occupant?, if_neg hl] at he
    exact (lookup_eq_some_iff _ hw.nodup l e).mp he

theorem contents?_eq_some_iff (t : FileTree) (l : Location) (contents : ByteArray) :
    t.contents? l = some contents ↔ t.occupant? l = some (.file contents) := by
  unfold contents?
  cases t.occupant? l with
  | none => simp
  | some e => cases e <;> simp

theorem isDirectory_iff (t : FileTree) (l : Location) :
    t.isDirectory l = true ↔ t.occupant? l = some .directory := by
  unfold isDirectory
  cases t.occupant? l with
  | none => simp
  | some e => cases e <;> simp

/-! ### Putting an entry -/

theorem lookup_filter_ne {α : Type} (entries : List (Location × α)) (l k : Location) (h : k ≠ l) :
    (entries.filter (·.1 ≠ l)).lookup k = entries.lookup k := by
  induction entries with
  | nil => rfl
  | cons entry rest ih =>
    obtain ⟨m, x⟩ := entry
    by_cases hm : m = l
    · have hkm : k ≠ m := hm ▸ h
      rw [List.filter_cons_of_neg (by simpa using hm), ih, lookup_cons_of_ne _ _ _ _ hkm]
    · rw [List.filter_cons_of_pos (by simpa using hm), List.lookup_cons, List.lookup_cons, ih]

theorem occupant?_put_of_ne (t : FileTree) (l k : Location) (e : Entry) (h : k ≠ l) :
    (t.put l e).occupant? k = t.occupant? k := by
  unfold occupant? put
  split
  · rfl
  · show ((l, e) :: t.entries.filter (·.1 ≠ l)).lookup k = _
    rw [lookup_cons_of_ne _ _ _ _ h, lookup_filter_ne _ _ _ h]

theorem contents?_put_of_ne (t : FileTree) (l k : Location) (e : Entry) (h : k ≠ l) :
    (t.put l e).contents? k = t.contents? k := by
  rw [contents?, contents?, occupant?_put_of_ne _ _ _ _ h]

theorem isDirectory_put_file (t : FileTree) (l k : Location) (contents : ByteArray) (hl : l ≠ [])
    (h : (t.put l (.file contents)).isDirectory k = true) : t.isDirectory k = true := by
  rw [isDirectory_iff] at h ⊢
  by_cases hk : k = l
  · rw [hk, occupant?_put_self t _ hl] at h
    cases h
  · rwa [occupant?_put_of_ne t l k _ hk] at h

/-- Where there is no directory, an entry can be put without anything going away. -/
theorem grows_put (t : FileTree) (l : Location) (e : Entry) (h : ¬t.isDirectory l = true) :
    t.Grows (t.put l e) := by
  have hl : l ≠ [] := by
    rintro rfl
    exact h rfl
  refine ⟨rfl, fun k hk => ?_, fun k hk => ?_⟩
  · have hkl : k ≠ l := fun he => h (he ▸ hk)
    rw [isDirectory_iff, occupant?_put_of_ne _ _ _ _ hkl]
    exact (isDirectory_iff t k).mp hk
  · by_cases hkl : k = l
    · rw [hkl, occupant?_put_self t _ hl]
      rfl
    · rw [occupant?_put_of_ne _ _ _ _ hkl]
      exact hk

theorem WellFormed.put {t : FileTree} (hw : t.WellFormed) (l : Location) (e : Entry) (hl : l ≠ [])
    (hproper : ∀ name ∈ l, ProperName name) : (t.put l e).WellFormed := by
  have hmem : ∀ entry ∈ (t.put l e).entries, entry = (l, e) ∨ entry ∈ t.entries := by
    intro entry hentry
    rcases List.mem_cons.mp hentry with h | h
    · exact .inl h
    · exact .inr (List.mem_of_mem_filter h)
  refine ⟨?_, fun entry hentry => ?_, fun entry hentry => ?_, hw.workingDirectory⟩
  · show (l :: (t.entries.filter (·.1 ≠ l)).map (·.1)).Nodup
    refine List.nodup_cons.mpr ⟨fun h => ?_, ?_⟩
    · obtain ⟨entry, hentry, he⟩ := List.mem_map.mp h
      exact of_decide_eq_true (List.mem_filter.mp hentry).2 he
    · exact hw.nodup.sublist (List.filter_sublist.map _)
  · rcases hmem entry hentry with rfl | h
    · exact hl
    · exact hw.below entry h
  · rcases hmem entry hentry with rfl | h
    · exact hproper
    · exact hw.proper entry h

theorem wellFormed_empty (workingDirectory : Location)
    (h : ∀ name ∈ workingDirectory, ProperName name) : (empty workingDirectory).WellFormed := by
  have hmem : ∀ entry ∈ (empty workingDirectory).entries, ∃ depth < workingDirectory.length,
      entry = (workingDirectory.take (depth + 1), .directory) := by
    intro entry hentry
    obtain ⟨depth, hdepth, rfl⟩ := List.mem_map.mp hentry
    exact ⟨depth, List.mem_range.mp hdepth, rfl⟩
  refine ⟨?_, fun entry hentry => ?_, fun entry hentry name hname => ?_, h⟩
  · unfold empty
    rw [List.map_map]
    refine List.Nodup.map_on (fun i hi j hj hij => ?_) List.nodup_range
    have hlength := congrArg List.length hij
    simp only [Function.comp_apply, List.length_take] at hlength
    have hi := List.mem_range.mp hi
    have hj := List.mem_range.mp hj
    omega
  · obtain ⟨depth, hdepth, rfl⟩ := hmem entry hentry
    intro hnil
    have hlength := congrArg List.length hnil
    simp only [List.length_take, List.length_nil] at hlength
    omega
  · obtain ⟨depth, _, rfl⟩ := hmem entry hentry
    exact h name (List.mem_of_mem_take hname)

/-! ### Proper locations -/

theorem stepTo_proper (l : Location) (part : String) (hl : ∀ name ∈ l, ProperName name)
    (hpart : '/' ∉ part.toList) : ∀ name ∈ stepTo l part, ProperName name := by
  unfold stepTo
  split
  · exact hl
  · next hsilent =>
    split
    · exact fun name hname => hl name ((List.dropLast_sublist l).subset hname)
    · next hup =>
      intro name hname
      rcases List.mem_append.mp hname with hname | hname
      · exact hl name hname
      · rw [List.mem_singleton.mp hname]
        exact ⟨(not_or.mp hsilent).1, (not_or.mp hsilent).2, hup, hpart⟩

theorem WellFormed.startOf_proper {t : FileTree} (hw : t.WellFormed) (p : Path) :
    ∀ name ∈ t.startOf p, ProperName name := by
  unfold startOf
  split
  · exact fun name hname => absurd hname List.not_mem_nil
  · exact hw.workingDirectory

/-- A path leads to a location made of proper names. -/
theorem WellFormed.locate?_proper {t : FileTree} (hw : t.WellFormed) (p : Path) (l : Location)
    (h : t.locate? p = some l) : ∀ name ∈ l, ProperName name := by
  have hfollow : ∀ (parts : List String) (k : Location), (∀ name ∈ k, ProperName name) →
      (∀ part ∈ parts, '/' ∉ part.toList) → ∀ name ∈ parts.foldl stepTo k, ProperName name := by
    intro parts
    induction parts with
    | nil => exact fun k hk _ => hk
    | cons part rest ih =>
      intro k hk hparts
      exact ih (stepTo k part) (stepTo_proper k part hk (hparts part List.mem_cons_self))
        fun p hp => hparts p (List.mem_cons_of_mem part hp)
  rw [locate?_eq t p l h, placeOf_components]
  exact hfollow p.parts _ (hw.startOf_proper p) (slash_not_mem_parts p)

/-! ### Making directories -/

/-- A tree to which nothing but directories has been added. -/
structure AddsDirectories (t t' : FileTree) : Prop where
  grows : t.Grows t'
  contents : ∀ l, t'.contents? l = t.contents? l
  wellFormed : t.WellFormed → t'.WellFormed

theorem AddsDirectories.refl (t : FileTree) : t.AddsDirectories t :=
  ⟨Grows.refl t, fun _ => rfl, id⟩

theorem AddsDirectories.trans {t u v : FileTree} (h₁ : t.AddsDirectories u)
    (h₂ : u.AddsDirectories v) : t.AddsDirectories v :=
  ⟨h₁.grows.trans h₂.grows, fun l => (h₂.contents l).trans (h₁.contents l),
    fun hw => h₂.wellFormed (h₁.wellFormed hw)⟩

/-- A directory put where nothing is. -/
theorem put_directory (t : FileTree) (l : Location) (hfree : t.occupant? l = none)
    (hproper : ∀ name ∈ l, ProperName name) : t.AddsDirectories (t.put l .directory) := by
  have hl : l ≠ [] := by
    rintro rfl
    cases hfree
  refine ⟨grows_put t l _ fun hdir => ?_, fun k => ?_, fun hw => hw.put l _ hl hproper⟩
  · rw [isDirectory_iff, hfree] at hdir
    cases hdir
  · by_cases hkl : k = l
    · rw [hkl, contents?, contents?, occupant?_put_self t _ hl, hfree]
    · exact contents?_put_of_ne t l k _ hkl

theorem makeDirectoriesFrom_adds (t : FileTree) (l : Location) (parts : List String)
    (hl : ∀ name ∈ l, ProperName name) (hparts : ∀ part ∈ parts, '/' ∉ part.toList) :
    t.AddsDirectories (t.makeDirectoriesFrom l parts).1 := by
  induction parts generalizing t l with
  | nil => exact .refl t
  | cons part rest ih =>
    have hstep := stepTo_proper l part hl (hparts part List.mem_cons_self)
    have hrest : ∀ p ∈ rest, '/' ∉ p.toList := fun p hp => hparts p (List.mem_cons_of_mem part hp)
    unfold makeDirectoriesFrom
    dsimp only
    split
    · exact .refl t
    · split
      · exact ih t _ hstep hrest
      · exact .refl t
      · next hfree => exact (put_directory t _ hfree hstep).trans (ih _ _ hstep hrest)

theorem makeDirectories_adds (t : FileTree) (hw : t.WellFormed) (p : Path) :
    t.AddsDirectories (t.makeDirectories p).1 := by
  unfold makeDirectories
  split
  · exact makeDirectoriesFrom_adds t _ p.parts (hw.startOf_proper p) (slash_not_mem_parts p)
  · exact .refl t

/-! #### Making them again -/

/-- Directories that have been made are there: making them again, whatever has been added to the tree
since, changes nothing and leads to the same place. -/
theorem makeDirectoriesFrom_again (t u v : FileTree) (l k : Location) (parts : List String)
    (hl : ∀ name ∈ l, ProperName name) (hparts : ∀ part ∈ parts, '/' ∉ part.toList)
    (h : t.makeDirectoriesFrom l parts = (u, some k)) (hg : u.Grows v) :
    v.makeDirectoriesFrom l parts = (v, some k) := by
  induction parts generalizing t l with
  | nil =>
    obtain ⟨rfl, hk⟩ := Prod.mk.inj h
    obtain rfl := Option.some.inj hk
    rfl
  | cons part rest ih =>
    have hstep := stepTo_proper l part hl (hparts part List.mem_cons_self)
    have hrest : ∀ p ∈ rest, '/' ∉ p.toList := fun p hp => hparts p (List.mem_cons_of_mem part hp)
    -- From a tree with the directory in it, the rest of the way leads to a tree that still has it.
    have hfrom : ∀ t' : FileTree, t'.occupant? (stepTo l part) = some .directory →
        t'.makeDirectoriesFrom (stepTo l part) rest = (u, some k) →
        v.occupant? (stepTo l part) = some .directory ∧
          v.makeDirectoriesFrom (stepTo l part) rest = (v, some k) := by
      intro t' hdir hmade
      have hadds := makeDirectoriesFrom_adds t' _ rest hstep hrest
      rw [hmade] at hadds
      refine ⟨(isDirectory_iff v _).mp ?_, ih t' _ hstep hrest hmade⟩
      exact (hadds.grows.trans hg).directories _ ((isDirectory_iff t' _).mpr hdir)
    unfold makeDirectoriesFrom at h ⊢
    dsimp only at h ⊢
    split at h
    · cases h
    · next hname =>
      rw [if_neg hname]
      have hthere : v.occupant? (stepTo l part) = some .directory ∧
          v.makeDirectoriesFrom (stepTo l part) rest = (v, some k) := by
        split at h
        · next hdir => exact hfrom t hdir h
        · cases h
        · next hfree =>
          refine hfrom _ (occupant?_put_self t _ fun hnil => ?_) h
          rw [hnil] at hfree
          cases hfree
      rw [hthere.1]
      exact hthere.2

theorem makeDirectories_again (t v : FileTree) (hw : t.WellFormed) (p : Path)
    (h : (t.makeDirectories p).2 = true) (hg : (t.makeDirectories p).1.Grows v) :
    v.makeDirectories p = (v, true) := by
  have hstart : v.startOf p = t.startOf p := by
    rw [startOf, startOf, ((makeDirectories_adds t hw p).grows.trans hg).workingDirectory]
  unfold makeDirectories at h hg ⊢
  split at h
  · next husable =>
    rw [if_pos husable] at hg ⊢
    rcases hmade : t.makeDirectoriesFrom (t.startOf p) p.parts with ⟨u, l⟩
    simp only [hmade] at h hg
    obtain ⟨k, rfl⟩ := Option.isSome_iff_exists.mp h
    have hagain := makeDirectoriesFrom_again t u v _ k p.parts (hw.startOf_proper p)
      (slash_not_mem_parts p) hmade hg
    rw [hstart, hagain]
    rfl
  · cases h

/-! ### Writing -/

/-- A tree in which a file has been written at a location, and nothing else has changed. -/
structure Writes (l : Location) (contents : ByteArray) (t t' : FileTree) : Prop where
  grows : t.Grows t'
  written : t'.contents? l = some contents
  kept : ∀ k, k ≠ l → t'.contents? k = t.contents? k
  wellFormed : t.WellFormed → t'.WellFormed

/-- Writing changes the file that the path denotes. -/
theorem write?_spec (t t' : FileTree) (hw : t.WellFormed) (p : Path) (contents : ByteArray)
    (h : t.write? p contents = some t') :
    ∃ l, t.locate? p = some l ∧ t.Writes l contents t' := by
  unfold write? at h
  cases hlocate : t.locate? p with
  | none =>
    rw [hlocate] at h
    cases h
  | some l =>
    rw [hlocate, Option.bind_eq_bind, Option.bind_some] at h
    split at h
    · cases h
    · next hdir =>
      obtain rfl := Option.some.inj h
      have hl : l ≠ [] := by
        rintro rfl
        exact hdir rfl
      exact ⟨l, rfl,
        { grows := grows_put t l _ hdir
          written := (contents?_eq_some_iff _ _ _).mpr (occupant?_put_self t _ hl)
          kept := fun k hk => contents?_put_of_ne t l k _ hk
          wellFormed := fun _ => hw.put l _ hl (hw.locate?_proper p l hlocate) }⟩

end CrossBrowser.FileTree
