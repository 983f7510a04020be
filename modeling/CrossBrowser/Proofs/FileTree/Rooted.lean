import CrossBrowser.Proofs.FileTree.Changing
import CrossBrowser.Proofs.Path.Joining
import Mathlib.Data.List.Induction

/-! Trees in which everything lies in a directory.

A tree of files hangs together: whatever is in it lies in a directory that is in it too. In such a
tree the path that a search gives to a file, the root and the names that lead down from it, does
denote that file (`Rooted.resolve?_join`). The empty tree is such, and making directories and
writing files keep it so (`Rooted.of_empty`, `Rooted.makeDirectories`, `Rooted.write?`). -/
namespace CrossBrowser.FileTree
open CrossBrowser.Path

/-! ### The order of the entries -/

theorem occupant?_of_perm {t t' : FileTree} (hw : t.WellFormed)
    (h : t'.entries.Perm t.entries) (l : Location) : t'.occupant? l = t.occupant? l := by
  unfold occupant?
  split
  · rfl
  · have hnodup : (t'.entries.map (·.1)).Nodup := (h.map _).nodup_iff.mpr hw.nodup
    refine Option.ext fun e => ?_
    rw [lookup_eq_some_iff _ hnodup, lookup_eq_some_iff _ hw.nodup, h.mem_iff]

theorem grows_of_perm {t t' : FileTree} (hw : t.WellFormed)
    (hdirectory : t'.workingDirectory = t.workingDirectory) (h : t'.entries.Perm t.entries) :
    t.Grows t' where
  workingDirectory := hdirectory
  directories l hl := by rwa [isDirectory, occupant?_of_perm hw h]
  occupied l hl := by rwa [occupant?_of_perm hw h]

theorem WellFormed.of_perm {t t' : FileTree} (hw : t.WellFormed)
    (hdirectory : t'.workingDirectory = t.workingDirectory) (h : t'.entries.Perm t.entries) :
    t'.WellFormed where
  nodup := (h.map _).nodup_iff.mpr hw.nodup
  below entry hentry := hw.below entry (h.mem_iff.mp hentry)
  proper entry hentry := hw.proper entry (h.mem_iff.mp hentry)
  workingDirectory := by rw [hdirectory]; exact hw.workingDirectory

/-! ### Trees that hang together -/

/-- A name that something can have. -/
def Nameable (name : String) : Prop := isName name = true ∧ '\x00' ∉ name.toList

instance (name : String) : Decidable (Nameable name) := inferInstanceAs (Decidable (_ ∧ _))

/-- A tree that hangs together, under names that things can have. -/
structure Rooted (t : FileTree) : Prop extends WellFormed t where
  parent : ∀ entry ∈ t.entries, t.isDirectory entry.1.dropLast = true
  nameable : ∀ entry ∈ t.entries, ∀ name ∈ entry.1, Nameable name
  start : t.isDirectory t.workingDirectory = true

namespace Rooted
variable {t : FileTree}

/-! ### The way down -/

theorem dropLast_isDirectory (hr : t.Rooted) {l : Location} (h : t.isDirectory l = true) :
    t.isDirectory l.dropLast = true := by
  by_cases hl : l = []
  · rw [hl]
    rfl
  · exact hr.parent _ ((hr.mem_entries_iff l .directory).mpr ⟨hl, (isDirectory_iff t l).mp h⟩)

/-- Directories are all the way down to an entry. -/
theorem above_isDirectory (hr : t.Rooted) (l : Location) (names : List String)
    (h : t.isDirectory (l ++ names) = true) : t.isDirectory l = true := by
  induction names using List.reverseRecOn with
  | nil => rwa [List.append_nil] at h
  | append_singleton folders name ih =>
    refine ih ?_
    have hparent := hr.dropLast_isDirectory h
    rwa [← List.append_assoc, List.dropLast_concat] at hparent

/-- The names that lead to an entry are steps to it. -/
theorem follow?_names (hr : t.Rooted) (l : Location) (names : List String) (e : Entry)
    (h : (l ++ names, e) ∈ t.entries) : t.follow? l names = some (l ++ names) := by
  induction names generalizing l with
  | nil => rw [follow?, List.append_nil]
  | cons name rest ih =>
    have hl : t.isDirectory l = true := by
      have hparent := hr.parent _ h
      rw [List.dropLast_append_of_ne_nil (List.cons_ne_nil name rest)] at hparent
      exact hr.above_isDirectory l _ hparent
    have hname : name ∈ l ++ name :: rest := List.mem_append_right l List.mem_cons_self
    have hproper := hr.proper _ h name hname
    have hstep : stepTo l name = l ++ [name] := by
      rw [stepTo, if_neg (not_or.mpr ⟨hproper.ne_empty, hproper.ne_here⟩), if_neg hproper.ne_up]
    have happend : l ++ name :: rest = (l ++ [name]) ++ rest := by
      rw [List.append_assoc, List.singleton_append]
    rw [happend] at h ⊢
    rw [follow?, hl, (hr.nameable _ h name (happend ▸ hname)).1, hstep]
    exact ih (l ++ [name]) h

/-- The path of the root and the names that lead down from it to an entry denotes the entry. -/
theorem resolve?_join (hr : t.Rooted) (root : Path) (l : Location)
    (hroot : t.resolve? root = some l) (names : List String) (hne : names ≠ []) (e : Entry)
    (h : (l ++ names, e) ∈ t.entries) :
    t.resolve? (root.join ⟨"/".intercalate names⟩) = some (l ++ names) := by
  obtain ⟨⟨htext, hnul⟩, hfollow, -⟩ := (resolve?_eq_some_iff t root l).mp hroot
  have hproper : ∀ name ∈ names, ProperName name := fun name hname =>
    hr.proper _ h name (List.mem_append_right l hname)
  have hrel := (ofNames_spec names hproper).1
  obtain ⟨before, hbefore, hparts⟩ := parts_join root ⟨"/".intercalate names⟩ htext hrel
  have hstart : t.startOf (root.join ⟨"/".intercalate names⟩) = t.startOf root := by
    rw [startOf, startOf, isAbsolute_join root _ htext hrel]
  obtain ⟨slash, hslash, hjoin⟩ := text_join root ⟨"/".intercalate names⟩ hrel
  refine (resolve?_eq_some_iff t _ _).mpr ⟨⟨?_, ?_⟩, ?_, ?_⟩
  · rw [hjoin]
    exact fun hempty => htext (String.append_eq_empty_iff.mp hempty).1
  · have hnames : '\x00' ∉ ("/".intercalate names).toList :=
      Text.not_mem_intercalate (by decide) fun name hname =>
        (hr.nameable _ h name (List.mem_append_right l hname)).2
    have hslash : '\x00' ∉ slash.toList := by
      rcases hslash with rfl | rfl <;> decide
    rw [hjoin, String.toList_append, String.toList_append, List.mem_append, List.mem_append]
    exact not_or.mpr ⟨hnul, not_or.mpr ⟨hslash, hnames⟩⟩
  · have hl : t.follow? (t.startOf root) before = some l := by
      rcases hbefore with heq | heq
      · rwa [heq] at hfollow
      · rw [heq, follow?_append] at hfollow
        obtain ⟨k, hk, hlast⟩ := Option.bind_eq_some_iff.mp hfollow
        obtain rfl := follow?_eq t k l [""] hlast
        exact hk
    rw [hstart, hparts, partsOf_intercalate names hne fun name hname => (hproper name hname).no_slash,
      follow?_append, hl, Option.bind_some, hr.follow?_names l names e h]
  · rw [((hr.mem_entries_iff _ e).mp h).2]
    rfl

/-! ### Trees that are made -/

theorem of_empty (workingDirectory : Location)
    (h : ∀ name ∈ workingDirectory, ProperName name ∧ Nameable name) :
    (empty workingDirectory).Rooted := by
  have hw := wellFormed_empty workingDirectory fun name hname => (h name hname).1
  have hmem : ∀ entry, entry ∈ (empty workingDirectory).entries ↔
      ∃ depth < workingDirectory.length, (workingDirectory.take (depth + 1), .directory) = entry := by
    intro entry
    simp only [empty, List.mem_map, List.mem_range]
  have htake : ∀ depth ≤ workingDirectory.length,
      (empty workingDirectory).isDirectory (workingDirectory.take depth) = true := by
    intro depth hdepth
    cases depth with
    | zero => rfl
    | succ depth =>
      rw [isDirectory_iff]
      exact ((hw.mem_entries_iff _ _).mp ((hmem _).mpr ⟨depth, hdepth, rfl⟩)).2
  refine { hw with parent := ?_, nameable := ?_, start := ?_ }
  · intro entry hentry
    obtain ⟨depth, hdepth, rfl⟩ := (hmem entry).mp hentry
    show (empty workingDirectory).isDirectory (workingDirectory.take (depth + 1)).dropLast = true
    rw [List.take_succ_eq_append_getElem hdepth, List.dropLast_concat]
    exact htake depth (Nat.le_of_lt hdepth)
  · intro entry hentry name hname
    obtain ⟨depth, hdepth, rfl⟩ := (hmem entry).mp hentry
    exact (h name (List.mem_of_mem_take hname)).2
  · have hlast := htake workingDirectory.length (Nat.le_refl _)
    rwa [List.take_length] at hlast

/-- Where something can be put: in a directory, under a name that it can have. -/
structure Free (t : FileTree) (l : Location) : Prop where
  parent : t.isDirectory l.dropLast = true
  proper : ∀ name ∈ l, ProperName name
  nameable : ∀ name ∈ l, Nameable name

theorem free_of_directory (hr : t.Rooted) {l : Location} (h : t.isDirectory l = true) :
    Free t l := by
  refine ⟨hr.dropLast_isDirectory h, fun name hname => ?_, fun name hname => ?_⟩
  all_goals
    have hl : l ≠ [] := List.ne_nil_of_mem hname
    have hmem := (hr.mem_entries_iff l .directory).mpr ⟨hl, (isDirectory_iff t l).mp h⟩
  · exact hr.proper _ hmem name hname
  · exact hr.nameable _ hmem name hname

/-- A step from a directory leads to where something can be put. -/
theorem free_stepTo (hr : t.Rooted) {l : Location} (h : t.isDirectory l = true) (part : String)
    (hslash : '/' ∉ part.toList) (hpart : Nameable part) : Free t (stepTo l part) := by
  have hfree := hr.free_of_directory h
  refine ⟨?_, stepTo_proper l part hfree.proper hslash, ?_⟩
  · unfold stepTo
    split
    · exact hfree.parent
    · split
      · exact hr.dropLast_isDirectory hfree.parent
      · rwa [List.dropLast_concat]
  · unfold stepTo
    split
    · exact hfree.nameable
    · split
      · exact fun name hname => hfree.nameable name ((List.dropLast_sublist l).subset hname)
      · intro name hname
        rcases List.mem_append.mp hname with hname | hname
        · exact hfree.nameable name hname
        · exact List.mem_singleton.mp hname ▸ hpart

/-- A path leads to where something can be put. -/
theorem free_follow? (hr : t.Rooted) (l k : Location) (parts : List String) (hl : Free t l)
    (hparts : ∀ part ∈ parts, '/' ∉ part.toList ∧ '\x00' ∉ part.toList)
    (h : t.follow? l parts = some k) : Free t k := by
  induction parts generalizing l with
  | nil => exact Option.some.inj h ▸ hl
  | cons part rest ih =>
    unfold follow? at h
    split at h
    · next hstep =>
      obtain ⟨hdir, hname⟩ := Bool.and_eq_true_iff.mp hstep
      obtain ⟨hslash, hnul⟩ := hparts part List.mem_cons_self
      exact ih _ (hr.free_stepTo hdir part hslash ⟨hname, hnul⟩)
        (fun p hp => hparts p (List.mem_cons_of_mem part hp)) h
    · cases h

theorem put (hr : t.Rooted) {l : Location} (e : Entry) (hfree : Free t l)
    (hdir : ¬t.isDirectory l = true) : (t.put l e).Rooted := by
  have hl : l ≠ [] := by
    rintro rfl
    exact hdir rfl
  have hgrows := grows_put t l e hdir
  have hmem : ∀ entry ∈ (t.put l e).entries, entry = (l, e) ∨ entry ∈ t.entries := by
    intro entry hentry
    exact (List.mem_cons.mp hentry).imp_right List.mem_of_mem_filter
  refine { hr.toWellFormed.put l e hl hfree.proper with parent := ?_, nameable := ?_, start := ?_ }
  · intro entry hentry
    refine hgrows.directories _ ?_
    rcases hmem entry hentry with rfl | hold
    · exact hfree.parent
    · exact hr.parent entry hold
  · intro entry hentry
    rcases hmem entry hentry with rfl | hold
    · exact hfree.nameable
    · exact hr.nameable entry hold
  · exact hgrows.directories _ hr.start

theorem startOf_isDirectory (hr : t.Rooted) (p : Path) : t.isDirectory (t.startOf p) = true := by
  unfold startOf
  split
  · rfl
  · exact hr.start

theorem makeDirectoriesFrom (hr : t.Rooted) (l : Location) (parts : List String)
    (hl : t.isDirectory l = true)
    (hparts : ∀ part ∈ parts, '/' ∉ part.toList ∧ '\x00' ∉ part.toList) :
    (t.makeDirectoriesFrom l parts).1.Rooted := by
  induction parts generalizing t l with
  | nil => exact hr
  | cons part rest ih =>
    have hrest := fun p hp => hparts p (List.mem_cons_of_mem part hp)
    unfold FileTree.makeDirectoriesFrom
    dsimp only
    split
    · exact hr
    · next hname =>
      split
      · next hdir => exact ih hr _ ((isDirectory_iff t _).mpr hdir) hrest
      · exact hr
      · next hnone =>
        obtain ⟨hslash, hnul⟩ := hparts part List.mem_cons_self
        have hname : isName part = true := by simpa using hname
        have hfree := hr.free_stepTo hl part hslash ⟨hname, hnul⟩
        have hdir : ¬t.isDirectory (stepTo l part) = true := by
          rw [isDirectory_iff, hnone]
          exact fun he => by cases he
        refine ih (hr.put .directory hfree hdir) _ ?_ hrest
        rw [isDirectory_iff]
        refine occupant?_put_self t _ fun hnil => ?_
        rw [hnil] at hnone
        cases hnone

theorem proper_parts {p : Path} (h : isUsable p = true) :
    ∀ part ∈ p.parts, '/' ∉ part.toList ∧ '\x00' ∉ part.toList := by
  intro part hpart
  refine ⟨slash_not_mem_parts p part hpart, fun hnul => ?_⟩
  have hmem := mem_text_of_mem_parts p part hpart _ hnul
  simp [isUsable, hmem] at h

theorem makeDirectories (hr : t.Rooted) (p : Path) : (t.makeDirectories p).1.Rooted := by
  unfold FileTree.makeDirectories
  split
  · next husable =>
    exact hr.makeDirectoriesFrom _ p.parts (hr.startOf_isDirectory p) (proper_parts husable)
  · exact hr

theorem write? (hr : t.Rooted) (p : Path) (contents : ByteArray) {t' : FileTree}
    (h : t.write? p contents = some t') : t'.Rooted := by
  obtain ⟨l, hlocate, hput⟩ := Option.bind_eq_some_iff.mp h
  split at hput
  · cases hput
  · next hdir =>
    obtain rfl := Option.some.inj hput
    refine hr.put (.file contents) ?_ hdir
    unfold locate? at hlocate
    split at hlocate
    · next husable =>
      exact hr.free_follow? _ l p.parts (hr.free_of_directory (hr.startOf_isDirectory p))
        (proper_parts husable) hlocate
    · cases hlocate

end Rooted
end CrossBrowser.FileTree
