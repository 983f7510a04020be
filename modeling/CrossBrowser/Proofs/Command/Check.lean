import CrossBrowser.Proofs.Output.Generating
import CrossBrowser.Proofs.Output.Writing

/-! Checking what has just been generated.

A run of generating changes no source, and the files it writes are not taken for sources, so
generating again gives the same files as before, but for sources that have come to be recognised as
the listing of supported browsers (`generateAll_again`). A check is then clean exactly if no file has
been overwritten in the run, that is, if no two sources in one folder share their stem. -/
namespace CrossBrowser
open CrossBrowser.Path FileTree Discovery GeneratedFile

theorem exists_files (files : List GeneratedFile) (found : List Path)
    (h : ∀ p ∈ found, ∃ g ∈ files, g.source = p) :
    ∃ files', files'.map (·.source) = found ∧ files' ⊆ files := by
  induction found with
  | nil => exact ⟨[], rfl, List.nil_subset files⟩
  | cons p rest ih =>
    obtain ⟨g, hg, rfl⟩ := h p List.mem_cons_self
    obtain ⟨files', hmap, hsub⟩ := ih fun q hq => h q (List.mem_cons_of_mem _ hq)
    exact ⟨g :: files', by rw [List.map_cons, hmap], List.cons_subset.mpr ⟨hg, hsub⟩⟩

/-- Generated files are not found by their extension. -/
theorem not_accepts_generated (c : Config) (hextensions : c.extensions = Config.standard.extensions)
    (p : Path) (he : p.extension? = some "cs") : c.accepts p = false := by
  rw [Config.accepts, he, hextensions]
  decide +kernel

/-- A directory is searched from the same place after a run, and what is found there before and after
it comes in the order of paths. -/
theorem search_after {t t' : FileTree} (hw : t.WellFormed) (hw' : t'.WellFormed) (hg : t.Grows t')
    (c : Config) (path : Path) (found : List Path) (hfile : t.isFile path = false)
    (hfound : featureFiles t c path = .ok found) :
    ∃ l found', t.find? path = some l ∧ searchRoot t' path = searchRoot t path ∧
      featureFiles t' c path = .ok found' ∧ found.Pairwise Precedes ∧ found'.Pairwise Precedes ∧
      (∀ p, p ∈ found ↔ p ∈ t.filesBelow l path ∧ isFeatureFile t c p = true) ∧
      ∀ p, p ∈ found' ↔ p ∈ t'.filesBelow l path ∧ isFeatureFile t' c p = true := by
  obtain ⟨l, hfind, hdir⟩ := find?_of_featureFiles t c path found hfile hfound
  obtain ⟨hfind', hfile'⟩ := directory_of_grows hg path l hfind hdir
  obtain ⟨_, hok, hmem, hsorted⟩ := featureFiles_directory t hw c path l hfile hfind
  obtain rfl := Except.ok.inj (hok.symm.trans hfound)
  obtain ⟨found', hok', hmem', hsorted'⟩ := featureFiles_directory t' hw' c path l hfile' hfind'
  refine ⟨l, found', hfind, ?_, hok', hsorted, hsorted', hmem, hmem'⟩
  rw [searchRoot, searchRoot, hfile, hfile']

section
variable {t t' : FileTree} {c : Config} {path : Path} {files : List GeneratedFile}
  (hsuffix : c.fileSuffix = Config.standard.fileSuffix) (h : Generates t c path files)
  (hwritten : Written files t t')
include hsuffix h hwritten

/-! ### Sources after a run -/

theorem read?_source (g : GeneratedFile) (hg : g ∈ files) :
    t'.read? g.source = t.read? g.source := by
  obtain ⟨l, contents, hlocate, _⟩ := (generate_ok _ _ _ _ g (h.generated g hg)).1
  have hfree : lastAt? t files l = none :=
    (lastAt?_eq_none_iff t files l).mpr fun g' hg' he =>
      h.source_ne_place hsuffix g g' hg hg' l hlocate he.symm
  rw [read?, read?, hlocate, hwritten.grows.locate? _ _ hlocate, Option.bind_some, Option.bind_some,
    hwritten.contents, hfree]
  rfl

/-- What a search of a directory finds after a run it found before. -/
theorem mem_of_featureFiles (hw : t.WellFormed)
    (hextensions : c.extensions = Config.standard.extensions) (l : Location) (p : Path)
    (hmem : p ∈ t'.filesBelow l path) (hfeature : isFeatureFile t' c p = true) :
    p ∈ t.filesBelow l path ∧ isFeatureFile t c p = true := by
  refine ⟨?_, isFeatureFile_of_grows hwritten.grows c p hfeature⟩
  obtain ⟨names, contents, hne, hentry, rfl⟩ := (mem_filesBelow t' l path p).mp hmem
  obtain ⟨hk, hoccupant⟩ := (hwritten.wellFormed.mem_entries_iff _ _).mp hentry
  have hcontents := (contents?_eq_some_iff _ _ _).mpr hoccupant
  rw [hwritten.contents] at hcontents
  cases hlast : lastAt? t files (l ++ names) with
  | none =>
    rw [hlast] at hcontents
    refine (mem_filesBelow t l path _).mpr ⟨names, contents, hne, ?_, rfl⟩
    exact (hw.mem_entries_iff _ _).mpr ⟨hk, (contents?_eq_some_iff _ _ _).mp hcontents⟩
  | some g =>
    -- The file is one of the run, so its extension is that of a generated file.
    obtain ⟨hg, hplace⟩ := mem_of_lastAt? t files _ g hlast
    obtain ⟨folders, stem, extension, hbelow, _⟩ := h.below g hg
    obtain ⟨init, name, hnames⟩ := (List.eq_nil_or_concat names).resolve_left hne
    rw [List.concat_eq_append] at hnames
    have hname : name = Output.outputName stem := by
      rw [place, (generate_ok _ _ _ _ g (h.generated g hg)).2.output_eq,
        Output.place_eq c hsuffix _ hbelow, hnames, ← List.append_assoc, ← List.append_assoc] at hplace
      exact (List.singleton_inj.mp (List.append_inj' hplace rfl).2).symm
    have hcomponents := components_of_entry t' hwritten.wellFormed l path names _ hentry
    rw [hnames, List.map_append, ← List.append_assoc] at hcomponents
    have hfile := fileName?_of_components _ _ _ hcomponents
    have he : (path.join ⟨"/".intercalate names⟩).extension? = some "cs" := by
      rw [hnames, extension?, hfile, Option.bind_some, hname, Output.splitName_outputName]
    rw [isFeatureFile, not_accepts_generated c hextensions _ he] at hfeature
    cases hfeature

/-! ### Generating again -/

theorem generate_again (files' : List GeneratedFile) (hsub : files' ⊆ files)
    (hroot : searchRoot t' path = searchRoot t path) :
    ∀ g ∈ files', generate t' c g.source (searchRoot t' path) = .ok g := by
  intro g hg
  rw [hroot, generate_congr t t' c _ _ (read?_source hsuffix h hwritten g (hsub hg))]
  exact h.generated g (hsub hg)

/-- Generating from a file again gives what it gave before. -/
theorem generateAll_again_file (hfile : t.isFile path = true)
    (hok : generateAll t c path = .ok files) : generateAll t' c path = .ok files := by
  obtain ⟨hfound, _⟩ := (generateAll_eq_ok_iff t c path files).mp hok
  rw [featureFiles_file t c path hfile] at hfound
  have hsources : files.map (·.source) = [path] := (Except.ok.inj hfound).symm
  obtain ⟨g, hg, hpath⟩ : ∃ g ∈ files, g.source = path :=
    List.mem_map.mp (hsources ▸ List.mem_cons_self)
  have hfile' : t'.isFile path = true := by
    rw [isFile, ← hpath, read?_source hsuffix h hwritten g hg, hpath]
    exact hfile
  have hroot : searchRoot t' path = searchRoot t path := by
    rw [searchRoot, searchRoot, if_pos hfile, if_pos hfile']
  refine (generateAll_eq_ok_iff t' c path files).mpr ⟨?_, ?_⟩
  · rw [featureFiles_file t' c path hfile', hsources]
  · exact generate_again hsuffix h hwritten files (List.Subset.refl files) hroot

/-- Searching a directory again finds no source that was not found before. -/
theorem generateAll_again_directory (hw : t.WellFormed)
    (hextensions : c.extensions = Config.standard.extensions) (hfile : t.isFile path = false)
    (hok : generateAll t c path = .ok files) :
    ∃ files', generateAll t' c path = .ok files' ∧ files' ⊆ files := by
  obtain ⟨hfound, _⟩ := (generateAll_eq_ok_iff t c path files).mp hok
  obtain ⟨l, found', _, hroot, hok', _, _, hmem, hmem'⟩ :=
    search_after hw hwritten.wellFormed hwritten.grows c path _ hfile hfound
  obtain ⟨files', hfiles', hsub⟩ := exists_files files found' fun p hp => by
    obtain ⟨hbelow, hfeature⟩ := (hmem' p).mp hp
    have hold := mem_of_featureFiles hsuffix h hwritten hw hextensions l p hbelow hfeature
    exact List.mem_map.mp ((hmem p).mpr hold)
  refine ⟨files', (generateAll_eq_ok_iff t' c path files').mpr ⟨?_, ?_⟩, hsub⟩
  · rw [hok', hfiles']
  · exact generate_again hsuffix h hwritten files' hsub hroot

/-- Generating again gives files of the run before. -/
theorem generateAll_again (hw : t.WellFormed)
    (hextensions : c.extensions = Config.standard.extensions)
    (hok : generateAll t c path = .ok files) :
    ∃ files', generateAll t' c path = .ok files' ∧ files' ⊆ files := by
  cases hfile : t.isFile path with
  | true =>
    have hagain := generateAll_again_file hsuffix h hwritten hfile hok
    exact ⟨files, hagain, List.Subset.refl files⟩
  | false => exact generateAll_again_directory hsuffix h hwritten hw hextensions hfile hok

/-! ### Files that are up to date -/

/-- A file of a run is up to date exactly if no later file of the run comes from a source that
shares its folder and stem. -/
theorem check_upToDate_iff (g : GeneratedFile) (hg : g ∈ files) :
    g.check t' = .ok .upToDate ↔
      ∀ g', [g, g'].Sublist files → ¬g.source.SharesStem g'.source := by
  rw [check_iff hwritten g hg, lastAt?_contents_iff t files (h.differ hsuffix) g hg]
  constructor
  · intro hall g' hsub hshares
    have hg' : g' ∈ files := hsub.subset (List.mem_cons_of_mem g List.mem_cons_self)
    exact hall g' hsub ((h.place_eq_iff hsuffix g g' hg hg').mpr hshares)
  · intro hall g' hsub hplace
    have hg' : g' ∈ files := hsub.subset (List.mem_cons_of_mem g List.mem_cons_self)
    exact hall g' hsub ((h.place_eq_iff hsuffix g g' hg hg').mp hplace)

end

/-! ### The commands -/

/-- **Checking after generating.** When a run of generating has succeeded, its files are up to date
exactly if no two of their sources lie in one folder and share their stem. A check then generates
files of that run again, and is clean exactly if none of these has been overwritten by a later file
of the run, one whose source shares its folder and stem. -/
theorem runCheck_runGenerate (t : FileTree) (hw : t.WellFormed) (c : Config)
    (hsuffix : c.fileSuffix = Config.standard.fileSuffix)
    (hextensions : c.extensions = Config.standard.extensions) (path : Path)
    (h : (Program.runGenerate t c path).2.error? = none) :
    ∃ files files', generateAll t c path = .ok files ∧
      generateAll (Program.runGenerate t c path).1 c path = .ok files' ∧ files' ⊆ files ∧
      ((∀ g ∈ files, g.check (Program.runGenerate t c path).1 = .ok .upToDate) ↔
        files.Pairwise fun g g' => ¬g.source.SharesStem g'.source) ∧
      ((Program.runCheck (Program.runGenerate t c path).1 c path).error? = none ↔
        ∀ g ∈ files', ∀ g', [g, g'].Sublist files → ¬g.source.SharesStem g'.source) := by
  cases hok : generateAll t c path with
  | error e =>
    rw [Program.runGenerate, hok] at h
    cases h
  | ok files =>
    have hrun : Program.runGenerate t c path = Program.writeFiles t files := by
      rw [Program.runGenerate, hok]
    rw [hrun] at h ⊢
    have hgenerates := generates_of_generateAll t hw c path files hok
    have hwritten := writeFiles_written files t hw h
    obtain ⟨files', hagain, hsub⟩ :=
      generateAll_again hsuffix hgenerates hwritten hw hextensions hok
    refine ⟨files, files', rfl, hagain, hsub, ?_, ?_⟩
    · rw [List.pairwise_iff_forall_sublist]
      constructor
      · intro hall g g' hpair
        have hg : g ∈ files := hpair.subset List.mem_cons_self
        exact (check_upToDate_iff hsuffix hgenerates hwritten g hg).mp (hall g hg) g' hpair
      · intro hall g hg
        exact (check_upToDate_iff hsuffix hgenerates hwritten g hg).mpr fun g' hpair => hall hpair
    · have hcheck : (Program.runCheck (Program.writeFiles t files).1 c path).error? = none ↔
          ∀ g ∈ files', g.check (Program.writeFiles t files).1 = .ok .upToDate := by
        rw [Program.runCheck, hagain]
        show (Program.checkFiles _ 0 files').error? = none ↔ _
        rw [Program.checkFiles_error?]
        exact and_iff_right rfl
      rw [hcheck]
      refine forall_congr' fun g => forall_congr' fun hg => ?_
      exact check_upToDate_iff hsuffix hgenerates hwritten g (hsub hg)

/-! ### Two features under one stem -/

theorem runGenerate_of_found (t : FileTree) (c : Config) (path : Path) (found : List Path)
    (h : featureFiles t c path = .ok found) :
    Program.runGenerate t c path =
      match found.mapM fun source => generate t c source (searchRoot t path) with
      | .error e => (t, .failed e)
      | .ok files => Program.writeFiles t files := by
  rw [Program.runGenerate, generateAll, h]
  rfl

/-- A tree with two features in one folder under one stem. -/
def sameStemTree : FileTree :=
  ((FileTree.empty ["w"]).put ["w", "a.yaml"] (.file (Text.encodeUtf8 "title: B"))).put
    ["w", "a.json"] (.file (Text.encodeUtf8 "\x7b\"title\":\"A\"\x7d"))

theorem sameStemTree_wellFormed : sameStemTree.WellFormed :=
  ((wellFormed_empty ["w"] (by decide)).put _ _ (by decide) (by decide)).put _ _ (by decide)
    (by decide)

/-- The features in that tree, in their order. -/
def sameStemSources : List Path := [⟨"./a.json"⟩, ⟨"./a.yaml"⟩]

theorem featureFiles_sameStem :
    featureFiles sameStemTree .standard ⟨"."⟩ = .ok sameStemSources :=
  featureFiles_of_sorted _ _ _ sameStemSources _ (by decide +kernel) (by decide +kernel)
    (by decide +kernel) (by decide +kernel)

theorem runGenerate_sameStem :
    Program.runGenerate sameStemTree .standard ⟨"."⟩ =
      match sameStemSources.mapM fun source => generate sameStemTree .standard source ⟨"."⟩ with
      | .error e => (sameStemTree, .failed e)
      | .ok files => Program.writeFiles sameStemTree files := by
  have hroot : searchRoot sameStemTree ⟨"."⟩ = ⟨"."⟩ := by decide +kernel
  rw [runGenerate_of_found _ _ _ _ featureFiles_sameStem, hroot]

theorem featureFiles_sameStem_after :
    featureFiles (Program.runGenerate sameStemTree .standard ⟨"."⟩).1 .standard ⟨"."⟩ =
      .ok sameStemSources := by
  rw [runGenerate_sameStem]
  exact featureFiles_of_sorted _ _ _ [⟨"./a.feature.cs"⟩, ⟨"./a.json"⟩, ⟨"./a.yaml"⟩] _
    (by decide +kernel) (by decide +kernel) (by decide +kernel) (by decide +kernel)

/-- A check right after generating that succeeded is not clean if two features in one folder share
their stem. -/
theorem runCheck_runGenerate_sameStem :
    (Program.runGenerate sameStemTree .standard ⟨"."⟩).2.error? = none ∧
      (Program.runCheck (Program.runGenerate sameStemTree .standard ⟨"."⟩).1 .standard
        ⟨"."⟩).error? ≠ none := by
  have hrun : (Program.runGenerate sameStemTree .standard ⟨"."⟩).2.error? = none := by
    rw [← Option.isNone_iff_eq_none, runGenerate_sameStem]
    decide +kernel
  refine ⟨hrun, fun hcheck => ?_⟩
  obtain ⟨files, files', hok, hagain, hsub, _, hiff⟩ :=
    runCheck_runGenerate sameStemTree sameStemTree_wellFormed .standard rfl rfl ⟨"."⟩ hrun
  have hsources : files.map (·.source) = sameStemSources :=
    Except.ok.inj (((generateAll_eq_ok_iff _ _ _ _).mp hok).1.symm.trans featureFiles_sameStem)
  have hsources' : files'.map (·.source) = sameStemSources :=
    Except.ok.inj (((generateAll_eq_ok_iff _ _ _ _).mp hagain).1.symm.trans
      featureFiles_sameStem_after)
  -- The first feature is generated again, and the second had its place after it.
  obtain ⟨first, hfirst, hjson⟩ : ∃ g ∈ files', g.source = ⟨"./a.json"⟩ :=
    List.mem_map.mp (hsources' ▸ List.mem_cons_self)
  have hmem := hsub hfirst
  obtain ⟨g, rest, rfl⟩ := List.exists_cons_of_ne_nil (List.ne_nil_of_mem hmem)
  obtain ⟨hg, hrest⟩ := List.cons.inj hsources
  obtain ⟨g', hg', hyaml⟩ : ∃ g ∈ rest, g.source = ⟨"./a.yaml"⟩ :=
    List.mem_map.mp (hrest ▸ List.mem_cons_self)
  have hall : ∀ g ∈ rest, g.source ≠ ⟨"./a.json"⟩ := by
    intro g hg he
    have hin : g.source ∈ rest.map (·.source) := List.mem_map_of_mem hg
    rw [hrest, he] at hin
    exact absurd hin (by decide)
  obtain rfl : first = g := (List.mem_cons.mp hmem).resolve_right fun h => hall first h hjson
  refine hiff.mp hcheck first hfirst g' ?_ ?_
  · exact List.cons_sublist_cons.mpr (List.singleton_sublist.mpr hg')
  · rw [hjson, hyaml]
    exact ⟨by decide +kernel, by decide +kernel⟩

end CrossBrowser
