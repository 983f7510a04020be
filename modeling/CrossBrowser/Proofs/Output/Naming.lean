import CrossBrowser.Output.Naming
import CrossBrowser.Proofs.FileTree.Locating
import CrossBrowser.Proofs.Path.Joining
import CrossBrowser.Proofs.Path.Names

/-! Where generated files go.

A file that lies below the root of a search is generated into the folder that mirrors its own, under
its stem (`path_components`). The extension of the file is lost on the way, so two files are
generated into the same place exactly if they lie in one folder and their names have the same stem
(`place_eq_iff`). -/
namespace CrossBrowser
open CrossBrowser.Path

/-- Two files in one folder whose names are the same but for their extensions. -/
structure Path.SharesStem (p q : Path) : Prop where
  folder : p.parent?.map components = q.parent?.map components
  stem : p.stem? = q.stem?

/-- A file that lies below the root of a search, in these folders and under this name. -/
structure Path.LiesBelow (root source : Path) (folders : List String) (stem extension : String) :
    Prop where
  components : source.components =
    root.components ++ (folders ++ [stem ++ "." ++ extension]).map .name
  stem_ne : stem ≠ ""
  no_dot : '.' ∉ extension.toList

namespace Path.LiesBelow
variable {root source : Path} {folders : List String} {stem extension : String}

theorem of_components (name : String)
    (h : source.components = root.components ++ (folders ++ [name]).map .name)
    (he : source.extension? = some extension) :
    ∃ stem, LiesBelow root source folders stem extension := by
  have hname : source.fileName? = some name := by
    refine fileName?_of_components source (root.components ++ folders.map .name) name ?_
    rw [h, List.map_append, List.append_assoc]
    rfl
  rw [extension?, hname, Option.bind_some] at he
  obtain ⟨happend, hstem, hdot⟩ :=
    append_of_splitName name (splitName name).1 extension (Prod.ext rfl he)
  refine ⟨(splitName name).1, ?_, hstem, hdot⟩
  rw [← happend, h]

variable (h : LiesBelow root source folders stem extension)
include h

theorem components_concat :
    source.components =
      (root.components ++ folders.map .name) ++ [.name (stem ++ "." ++ extension)] := by
  rw [h.components, List.map_append, List.append_assoc]
  rfl

theorem fileName?_eq : source.fileName? = some (stem ++ "." ++ extension) :=
  fileName?_of_components source _ _ h.components_concat

theorem stem?_eq : source.stem? = some stem := by
  rw [stem?, h.fileName?_eq, Option.map_some, splitName_of_append stem extension h.stem_ne h.no_dot]

theorem folder_eq :
    source.parent?.map Path.components = some (root.components ++ folders.map .name) := by
  obtain ⟨q, hparent, hq⟩ :=
    parent?_of_components source _ _ h.components_concat (fun he => by cases he)
  rw [hparent, Option.map_some, hq]

theorem slash_not_mem_stem : '/' ∉ stem.toList := by
  have hproper : ProperName (stem ++ "." ++ extension) := by
    refine properName_of_mem source _ ?_
    rw [h.components_concat]
    exact List.mem_append_right _ List.mem_cons_self
  intro hmem
  refine hproper.no_slash ?_
  rw [String.toList_append, String.toList_append]
  exact List.mem_append_left _ (List.mem_append_left _ hmem)

end Path.LiesBelow

namespace Output

/-- The name of the file that is generated for a file with this stem. -/
def outputName (stem : String) : String := stem ++ Config.standard.fileSuffix

theorem toList_outputName (stem : String) :
    (outputName stem).toList = stem.toList ++ ".feature.cs".toList :=
  String.toList_append

theorem outputName_injective {stem stem' : String} (h : outputName stem = outputName stem') :
    stem = stem' := by
  have hlist := congrArg String.toList h
  rw [toList_outputName, toList_outputName] at hlist
  exact String.toList_inj.mp (List.append_cancel_right hlist)

theorem outputName_proper (stem : String) (h : '/' ∉ stem.toList) :
    ProperName (outputName stem) := by
  have hlong : ∀ name : String, name.toList.length < 3 → outputName stem ≠ name := by
    intro name hshort he
    have hlength := congrArg (List.length ∘ String.toList) he
    rw [Function.comp_apply, toList_outputName, List.length_append] at hlength
    have hsuffix : ".feature.cs".toList.length = 11 := by decide
    simp only [Function.comp_apply] at hlength
    omega
  refine ⟨hlong "" (by decide), hlong "." (by decide), hlong ".." (by decide), ?_⟩
  rw [toList_outputName]
  intro hmem
  rcases List.mem_append.mp hmem with hmem | hmem
  · exact h hmem
  · exact absurd hmem (by decide)

/-- The extension of a generated file is that of its suffix. -/
theorem splitName_outputName (stem : String) :
    splitName (outputName stem) = (stem ++ ".feature", some "cs") := by
  have hname : outputName stem = (stem ++ ".feature") ++ "." ++ "cs" := by
    rw [← String.toList_inj, toList_outputName]
    simp [String.toList_append]
  have hne : stem ++ ".feature" ≠ "" := by
    intro he
    have hlength := congrArg (List.length ∘ String.toList) he
    simp [String.toList_append] at hlength
  rw [hname, splitName_of_append _ _ hne (by decide)]

/-- The directory that generated files go into, or into folders of. -/
def base (c : Config) (root : Path) : List Component :=
  match c.outputDirectory with
  | none => root.components
  | some directory => directory.components

/-- A file is generated into the folder that mirrors its own, under its stem. -/
theorem path_components (c : Config) (hsuffix : c.fileSuffix = Config.standard.fileSuffix)
    {root source : Path} {folders : List String} {stem extension : String}
    (h : LiesBelow root source folders stem extension) :
    (path c source root).components = base c root ++ (folders ++ [outputName stem]).map .name := by
  have hname : fileName c source = outputName stem := by
    rw [fileName, h.stem?_eq, hsuffix]
    rfl
  have hproper := outputName_proper stem h.slash_not_mem_stem
  unfold path base
  cases c.outputDirectory with
  | none =>
    show (source.withFileName (fileName c source)).components = _
    rw [hname, components_withFileName source _ _ _ h.components_concat hproper, List.map_append,
      List.append_assoc]
    rfl
  | some directory =>
    obtain ⟨q, hparent, hq⟩ :=
      parent?_of_components source _ _ h.components_concat (fun he => by cases he)
    obtain ⟨rest, hstrip, hrel, hrest⟩ := stripPrefix?_of_components q root folders hq
    have hfolders : Output.folders source root = rest := by
      rw [Output.folders, hparent, Option.bind_some, hstrip, Option.getD_some]
    have hhere : rest.components.head? ≠ some .here := by
      rw [hrest]
      cases folders <;> simp
    show ((directory.join (Output.folders source root)).join ⟨fileName c source⟩).components = _
    rw [hname, hfolders, components_join_name _ _ hproper, components_join _ _ hrel hhere, hrest,
      List.map_append, List.append_assoc]
    rfl

/-- Where a generated file lies. -/
theorem place_eq (c : Config) (hsuffix : c.fileSuffix = Config.standard.fileSuffix)
    (workingDirectory : Location) {root source : Path} {folders : List String}
    {stem extension : String} (h : LiesBelow root source folders stem extension) :
    FileTree.placeOf workingDirectory (path c source root).components =
      FileTree.placeOf workingDirectory (base c root) ++ (folders ++ [outputName stem]) := by
  rw [path_components c hsuffix h, FileTree.placeOf_append, FileTree.placeOf_names]

/-- Files below one root are generated into the same place exactly if they share folder and
stem. -/
theorem place_eq_iff (c : Config) (hsuffix : c.fileSuffix = Config.standard.fileSuffix)
    (workingDirectory : Location) {root p q : Path} {folders folders' : List String}
    {stem stem' extension extension' : String} (hp : LiesBelow root p folders stem extension)
    (hq : LiesBelow root q folders' stem' extension') :
    FileTree.placeOf workingDirectory (path c p root).components =
        FileTree.placeOf workingDirectory (path c q root).components ↔ p.SharesStem q := by
  rw [place_eq c hsuffix _ hp, place_eq c hsuffix _ hq, List.append_cancel_left_eq]
  constructor
  · intro h
    obtain ⟨hfolders, hname⟩ := List.append_inj' h rfl
    refine ⟨?_, ?_⟩
    · rw [hp.folder_eq, hq.folder_eq, hfolders]
    · rw [hp.stem?_eq, hq.stem?_eq, outputName_injective (List.singleton_inj.mp hname)]
  · intro h
    have hfolder := h.folder
    rw [hp.folder_eq, hq.folder_eq] at hfolder
    have hnames := List.append_cancel_left (Option.some.inj hfolder)
    have hfolders : folders = folders' :=
      (List.map_inj_right fun _ _ => Component.name.inj).mp hnames
    have hstem := h.stem
    rw [hp.stem?_eq, hq.stem?_eq] at hstem
    rw [hfolders, Option.some.inj hstem]

end Output
end CrossBrowser
