import CrossBrowser.Proofs.Output.Finding
import CrossBrowser.Proofs.Path.Siblings
import Mathlib.Tactic.TFAE

/-! Generated files mirror the files that a search has found.

What a search of a directory finds lies below it, and its path is the root joined with the names
that lead down to it (`found_below`). So no folder between the root and a file is lost: files are
generated to one path exactly if they lie in one folder under one stem, and what goes into an output
directory stays inside it (`path_mirrors`). -/
namespace CrossBrowser
open CrossBrowser.Path FileTree Discovery

/-- The names that lead down to a file are proper. -/
theorem Path.LiesBelow.proper {root source : Path} {folders : List String}
    {stem extension : String} (h : LiesBelow root source folders stem extension) :
    ∀ name ∈ folders ++ [stem ++ "." ++ extension], ProperName name := by
  intro name hname
  refine properName_of_mem source name ?_
  rw [h.components]
  exact List.mem_append_right _ (List.mem_map_of_mem hname)

namespace Output

/-! ### What has been found -/

/-- What is found by a search of a directory lies below it, and its path is written as its folders
and its own name are. -/
theorem found_below (t : FileTree) (hw : t.WellFormed) (c : Config) (root : Path)
    (found : List Path) (hroot : t.isFile root = false)
    (hfound : featureFiles t c root = .ok found) (p : Path) (hp : p ∈ found) :
    ∃ folders stem extension, LiesBelow root p folders stem extension ∧
      p = root.join ⟨"/".intercalate (folders ++ [stem ++ "." ++ extension])⟩ := by
  obtain ⟨l, hfind, -⟩ := find?_of_featureFiles t c root found hroot hfound
  obtain ⟨found', hfound', hmem, -⟩ := featureFiles_directory t hw c root l hroot hfind
  obtain rfl := Except.ok.inj (hfound.symm.trans hfound')
  obtain ⟨hbelow, hfeature⟩ := (hmem p).mp hp
  obtain ⟨extension, hextension⟩ : ∃ extension, p.extension? = some extension := by
    have haccepts : c.accepts p = true :=
      (Bool.and_eq_true_iff.mp (Bool.and_eq_true_iff.mp hfeature).1).1
    refine Option.ne_none_iff_exists'.mp fun hnone => ?_
    rw [Config.accepts, hnone] at haccepts
    cases haccepts
  obtain ⟨names, contents, hne, hentry, hjoin⟩ := (mem_filesBelow t l root p).mp hbelow
  obtain ⟨folders, name, rfl⟩ := (List.eq_nil_or_concat' names).resolve_left hne
  have hcomponents := components_of_entry t hw l root _ _ hentry
  rw [← hjoin] at hcomponents
  obtain ⟨stem, h⟩ := LiesBelow.of_components name hcomponents hextension
  refine ⟨folders, stem, extension, h, ?_⟩
  have hlast : p.components = (root.components ++ folders.map .name) ++ [.name name] := by
    rw [hcomponents, List.map_append, List.append_assoc]
    rfl
  have hname := (fileName?_of_components p _ name hlast).symm.trans h.fileName?_eq
  rwa [Option.some.inj hname] at hjoin

/-- Files found in one folder have one parent, down to how it is written. -/
theorem parent?_eq_of_folders (root p q : Path) (folders : List String)
    (stem stem' extension extension' : String) (hp : LiesBelow root p folders stem extension)
    (hq : LiesBelow root q folders stem' extension')
    (hp' : p = root.join ⟨"/".intercalate (folders ++ [stem ++ "." ++ extension])⟩)
    (hq' : q = root.join ⟨"/".intercalate (folders ++ [stem' ++ "." ++ extension'])⟩) :
    p.parent? = q.parent? := by
  rw [hp', hq']
  exact parent?_siblings root folders _ _
    (fun folder hfolder => hp.proper folder (List.mem_append_left _ hfolder))
    (hp.proper _ (List.mem_append_right _ List.mem_cons_self))
    (hq.proper _ (List.mem_append_right _ List.mem_cons_self))

/-! ### Where it goes -/

/-- Where a file goes depends on the parent of its source and on the stem. -/
theorem path_congr (c : Config) (p q root : Path) (stem : String) (hparent : p.parent? = q.parent?)
    (hp : p.stem? = some stem) (hq : q.stem? = some stem) : path c p root = path c q root := by
  have hnamed : ∀ p : Path, p.stem? = some stem → p.fileName?.isSome := by
    intro p h
    obtain ⟨name, hname, -⟩ := Option.map_eq_some_iff.mp h
    rw [hname]
    rfl
  have hname : fileName c p = fileName c q := by
    rw [fileName, fileName, hp, hq]
  unfold path
  rw [hname]
  cases c.outputDirectory with
  | none =>
    show p.withFileName (fileName c q) = q.withFileName (fileName c q)
    rw [withFileName, withFileName, if_pos (hnamed p hp), if_pos (hnamed q hq), hparent]
  | some directory =>
    show (directory.join (folders p root)).join _ = (directory.join (folders q root)).join _
    rw [folders, folders, hparent]

/-- A file goes into the folder of the output directory that its source's folder is, taken from the
root. -/
theorem path_directory (c : Config) (hsuffix : c.fileSuffix = Config.standard.fileSuffix)
    (directory : Path) (hdirectory : c.outputDirectory = some directory) {root source : Path}
    {names : List String} {stem extension : String}
    (h : LiesBelow root source names stem extension) :
    ∃ parent folder, source.parent? = some parent ∧ parent.stripPrefix? root = some folder ∧
      folder.components = names.map .name ∧
      path c source root = (directory.join folder).join ⟨outputName stem⟩ := by
  obtain ⟨parent, hparent, hcomponents⟩ :=
    parent?_of_components source _ _ h.components_concat (fun he => by cases he)
  obtain ⟨folder, hstrip, -, hfolder⟩ := stripPrefix?_of_components parent root names hcomponents
  refine ⟨parent, folder, hparent, hstrip, hfolder, ?_⟩
  have hname : fileName c source = outputName stem := by
    rw [fileName, h.stem?_eq, hsuffix]
    rfl
  unfold path
  rw [hdirectory, folders, hparent, Option.bind_some, hstrip, Option.getD_some, hname]

/-- **Generated files mirror their sources.** Two files that a search of a directory has found are
generated to one path, as it is written, as it is compared or as it leads, exactly if they lie in
one folder under one stem. With an output directory, a file goes into its folder under that
directory: below the directory by the folders from the root to the source, and by its own name. -/
theorem path_mirrors (t : FileTree) (hw : t.WellFormed) (c : Config)
    (hsuffix : c.fileSuffix = Config.standard.fileSuffix) (root : Path) (found : List Path)
    (hroot : t.isFile root = false) (hfound : featureFiles t c root = .ok found) :
    (∀ p ∈ found, ∀ q ∈ found, List.TFAE [
      p.SharesStem q,
      p.parent? = q.parent? ∧ p.stem? = q.stem?,
      path c p root = path c q root,
      (path c p root).same (path c q root) = true,
      placeOf t.workingDirectory (path c p root).components =
        placeOf t.workingDirectory (path c q root).components]) ∧
    ∀ directory, c.outputDirectory = some directory → ∀ p ∈ found, ∃ parent folder names stem,
      p.parent? = some parent ∧ p.stem? = some stem ∧ parent.stripPrefix? root = some folder ∧
        folder.components = names.map .name ∧
        path c p root = (directory.join folder).join ⟨outputName stem⟩ ∧
        (path c p root).components =
          directory.components ++ (names ++ [outputName stem]).map .name := by
  constructor
  · intro p hp q hq
    obtain ⟨folders, stem, extension, hbelow, hjoin⟩ :=
      found_below t hw c root found hroot hfound p hp
    obtain ⟨folders', stem', extension', hbelow', hjoin'⟩ :=
      found_below t hw c root found hroot hfound q hq
    have hplace := place_eq_iff c hsuffix t.workingDirectory hbelow hbelow'
    tfae_have 1 → 2 := by
      intro h
      have hfolder := h.folder
      rw [hbelow.folder_eq, hbelow'.folder_eq] at hfolder
      obtain rfl : folders = folders' := (List.map_inj_right fun _ _ => Component.name.inj).mp
        (List.append_cancel_left (Option.some.inj hfolder))
      exact ⟨parent?_eq_of_folders root p q folders stem stem' extension extension' hbelow hbelow'
        hjoin hjoin', h.stem⟩
    tfae_have 2 → 3 := fun ⟨hparent, hstem⟩ =>
      path_congr c p q root stem hparent hbelow.stem?_eq (hstem ▸ hbelow.stem?_eq)
    tfae_have 3 → 4 := fun h => beq_iff_eq.mpr (congrArg Path.components h)
    tfae_have 4 → 5 := fun h => congrArg (placeOf t.workingDirectory) (eq_of_beq h)
    tfae_have 5 → 1 := hplace.mp
    tfae_finish
  · intro directory hdirectory p hp
    obtain ⟨names, stem, extension, hbelow, -⟩ :=
      found_below t hw c root found hroot hfound p hp
    obtain ⟨parent, folder, hparent, hstrip, hfolder, hpath⟩ :=
      path_directory c hsuffix directory hdirectory hbelow
    have hcomponents := path_components c hsuffix hbelow
    rw [base, hdirectory] at hcomponents
    exact ⟨parent, folder, names, stem, hparent, hbelow.stem?_eq, hstrip, hfolder, hpath,
      hcomponents⟩

/-- A tree with three features: two in one folder under one stem, and one under the same stem in a
folder below. -/
def nestedTree : FileTree :=
  (((((FileTree.empty ["w"]).put ["w", "pages"] .directory).put
    ["w", "pages", "old"] .directory).put
    ["w", "pages", "old", "a.yaml"] (.file .empty)).put
    ["w", "pages", "a.yaml"] (.file .empty)).put
    ["w", "pages", "a.json"] (.file .empty)

theorem nestedTree_wellFormed : nestedTree.WellFormed :=
  (((((wellFormed_empty ["w"] (by decide)).put _ _ (by decide) (by decide)).put _ _ (by decide)
    (by decide)).put _ _ (by decide) (by decide)).put _ _ (by decide) (by decide)).put _ _
    (by decide) (by decide)

theorem path_mirrors_nested :
    let c : Config := { Config.standard with outputDirectory := some ⟨"gen"⟩ }
    let root : Path := ⟨"./pages//"⟩
    featureFiles nestedTree c root =
        .ok [⟨"./pages//a.json"⟩, ⟨"./pages//a.yaml"⟩, ⟨"./pages//old/a.yaml"⟩] ∧
      path c ⟨"./pages//a.json"⟩ root = path c ⟨"./pages//a.yaml"⟩ root ∧
      path c ⟨"./pages//a.yaml"⟩ root ≠ path c ⟨"./pages//old/a.yaml"⟩ root ∧
      [.name "gen"] <+: (path c ⟨"./pages//old/a.yaml"⟩ root).components := by
  intro c root
  have hfile : nestedTree.isFile root = false := by decide +kernel
  have hfound : featureFiles nestedTree c root =
      .ok [⟨"./pages//a.json"⟩, ⟨"./pages//a.yaml"⟩, ⟨"./pages//old/a.yaml"⟩] :=
    featureFiles_of_sorted _ _ _
      [⟨"./pages//a.json"⟩, ⟨"./pages//a.yaml"⟩, ⟨"./pages//old/a.yaml"⟩] _ hfile
      (by decide +kernel) (by decide +kernel) (by decide +kernel)
  obtain ⟨hsame, hinside⟩ := path_mirrors nestedTree nestedTree_wellFormed c rfl root _ hfile hfound
  refine ⟨hfound, ?_, fun h => ?_, ?_⟩
  · have hiff := hsame ⟨"./pages//a.json"⟩ (by decide) ⟨"./pages//a.yaml"⟩ (by decide)
    exact (hiff.out 1 2).mp (by decide +kernel)
  · have hiff := hsame ⟨"./pages//a.yaml"⟩ (by decide) ⟨"./pages//old/a.yaml"⟩ (by decide)
    exact absurd ((hiff.out 2 1).mp h) (by decide +kernel)
  · obtain ⟨_, _, names, stem, -, -, -, -, -, hcomponents⟩ :=
      hinside ⟨"gen"⟩ rfl ⟨"./pages//old/a.yaml"⟩ (by decide)
    exact ⟨_, hcomponents.symm⟩

end Output
end CrossBrowser
