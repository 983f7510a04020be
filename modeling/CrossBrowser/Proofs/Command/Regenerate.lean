import CrossBrowser.Proofs.Command.Check
import CrossBrowser.Proofs.Output.Rewriting

/-! Generating what has just been generated.

A run of generating leaves the sources where they were and adds none, and the listing of supported
browsers is recognised as it was before if it was there. So a search finds the same sources in the
same order, the same files are generated from them (`generateAll_same`), and writing these again leaves
everything as it is (`runGenerate_again`). -/
namespace CrossBrowser
open CrossBrowser.Path FileTree Discovery GeneratedFile

/-! ### Sources after a run -/

section
variable {t t' : FileTree} {c : Config} {path : Path} {files : List GeneratedFile}
  (hsuffix : c.fileSuffix = Config.standard.fileSuffix) (h : Generates t c path files)
  (hwritten : Written files t t')
include hsuffix h hwritten

/-- A source below a directory is still below it after a run. -/
theorem source_below (hw : t.WellFormed) (l : Location) (hfind : t.find? path = some l)
    (g : GeneratedFile) (hg : g ∈ files) (hbelow : g.source ∈ t.filesBelow l path) :
    g.source ∈ t'.filesBelow l path := by
  obtain ⟨names, _, hne, hentry, hsource⟩ := (mem_filesBelow t l path g.source).mp hbelow
  obtain ⟨k, bytes, hlocate, hcontents⟩ := (generate_ok _ _ _ _ g (h.generated g hg)).1
  -- The source lies where the search has come from the root by its names.
  have hk : k = l ++ names := by
    have hroot := locate?_eq t path l ((find?_eq_some_iff t path l).mp hfind).1
    rw [locate?_eq t g.source k hlocate, hsource, components_of_entry t hw l path names _ hentry,
      placeOf_append, placeOf_names, ← hroot]
  have hread := read?_source hsuffix h hwritten g hg
  rw [read?, read?, hlocate, hwritten.grows.locate? _ _ hlocate, Option.bind_some, Option.bind_some,
    hcontents, hk] at hread
  refine (mem_filesBelow t' l path g.source).mpr ⟨names, bytes, hne, ?_, hsource⟩
  refine (hwritten.wellFormed.mem_entries_iff _ _).mpr ⟨?_, (contents?_eq_some_iff _ _ _).mp hread⟩
  exact fun hnil => hne (List.append_eq_nil_iff.mp hnil).2

variable (hlisting : ∀ listing, c.supportedBrowsers = some listing → t.isFile listing = true)
include hlisting

/-- A source is still found after a run. -/
theorem source_found (hw : t.WellFormed) (l : Location) (hfind : t.find? path = some l)
    (g : GeneratedFile) (hg : g ∈ files) (hbelow : g.source ∈ t.filesBelow l path)
    (hfeature : isFeatureFile t c g.source = true) :
    g.source ∈ t'.filesBelow l path ∧ isFeatureFile t' c g.source = true := by
  refine ⟨source_below hsuffix h hwritten hw l hfind g hg hbelow, ?_⟩
  have hthere : (t.find? g.source).isSome := by
    obtain ⟨k, bytes, hlocate, hcontents⟩ := (generate_ok _ _ _ _ g (h.generated g hg)).1
    refine find?_of_isFile t g.source ?_
    rw [isFile, read?, hlocate, Option.bind_some, hcontents]
    rfl
  exact (isFeatureFile_grows_iff hwritten.grows c
    (fun listing hs => find?_of_isFile t listing (hlisting listing hs)) g.source hthere).mpr hfeature

/-- Generating from a directory again gives what it gave before. -/
theorem generateAll_same_directory (hw : t.WellFormed)
    (hextensions : c.extensions = Config.standard.extensions) (hfile : t.isFile path = false)
    (hok : generateAll t c path = .ok files) : generateAll t' c path = .ok files := by
  obtain ⟨hfound, _⟩ := (generateAll_eq_ok_iff t c path files).mp hok
  obtain ⟨l, found', hfind, hroot, hok', hsorted, hsorted', hmem, hmem'⟩ :=
    search_after hw hwritten.wellFormed hwritten.grows c path _ hfile hfound
  have hiff : ∀ p, p ∈ found' ↔ p ∈ files.map (·.source) := by
    intro p
    rw [hmem', hmem]
    constructor
    · rintro ⟨hbelow, hfeature⟩
      exact mem_of_featureFiles hsuffix h hwritten hw hextensions l p hbelow hfeature
    · rintro ⟨hbelow, hfeature⟩
      obtain ⟨g, hg, rfl⟩ := List.mem_map.mp ((hmem p).mpr ⟨hbelow, hfeature⟩)
      exact source_found hsuffix h hwritten hlisting hw l hfind g hg hbelow hfeature
  refine (generateAll_eq_ok_iff t' c path files).mpr ⟨?_, ?_⟩
  · rw [hok', hsorted'.eq_of_mem_iff hsorted hiff]
  · exact generate_again hsuffix h hwritten files (List.Subset.refl files) hroot

/-- Generating again gives what it gave before. -/
theorem generateAll_same (hw : t.WellFormed)
    (hextensions : c.extensions = Config.standard.extensions)
    (hok : generateAll t c path = .ok files) : generateAll t' c path = .ok files := by
  cases hfile : t.isFile path with
  | true => exact generateAll_again_file hsuffix h hwritten hfile hok
  | false =>
    exact generateAll_same_directory hsuffix h hwritten hlisting hw hextensions hfile hok

end

/-! ### The command -/

/-- **Generating again.** Let the listing of supported browsers be there if one is set, and let a run
of generating succeed. Then a search at the same path finds the same features as before the run, and
another run succeeds and leaves the tree as it is. -/
theorem Program.runGenerate_again (t : FileTree) (hw : t.WellFormed) (c : Config)
    (hsuffix : c.fileSuffix = Config.standard.fileSuffix)
    (hextensions : c.extensions = Config.standard.extensions)
    (hlisting : ∀ listing, c.supportedBrowsers = some listing → t.isFile listing = true)
    (path : Path) (h : (runGenerate t c path).2.error? = none) :
    (∃ found, featureFiles t c path = .ok found ∧
        featureFiles (runGenerate t c path).1 c path = .ok found) ∧
      (runGenerate (runGenerate t c path).1 c path).2.error? = none ∧
      (runGenerate t c path).1.Same (runGenerate (runGenerate t c path).1 c path).1 := by
  cases hok : generateAll t c path with
  | error e =>
    rw [runGenerate, hok] at h
    cases h
  | ok files =>
    have hrun : runGenerate t c path = writeFiles t files := by
      rw [runGenerate, hok]
    rw [hrun] at h ⊢
    have hgenerates := generates_of_generateAll t hw c path files hok
    have hwritten := writeFiles_written files t hw h
    have hsame := generateAll_same hsuffix hgenerates hwritten hlisting hw hextensions hok
    have hagain : runGenerate (writeFiles t files).1 c path =
        writeFiles (writeFiles t files).1 files := by
      rw [runGenerate, hsame]
    obtain ⟨htree, herror⟩ := writeFiles_again files t (writeFiles t files).1 hw h (Grows.refl _)
      hwritten.not_isDirectory
    rw [hagain]
    refine ⟨⟨files.map (·.source), ?_, ?_⟩, herror, ?_⟩
    · exact ((generateAll_eq_ok_iff t c path files).mp hok).1
    · exact ((generateAll_eq_ok_iff _ c path files).mp hsame).1
    · rw [htree]
      exact hwritten.putAll_same

/-! ### Features under one stem beside their listing -/

/-- A tree with two features in one folder under one stem, and a listing of browsers. -/
def listedTree : FileTree :=
  ((((FileTree.empty ["w"]).put ["w", "pages"] .directory).put
    ["w", "pages", "a.yaml"] (.file (Text.encodeUtf8 "title: B"))).put
    ["w", "pages", "a.json"] (.file (Text.encodeUtf8 "\x7b\"title\":\"A\"\x7d"))).put
    ["w", "browsers.json"] (.file (Text.encodeUtf8 "[]"))

theorem listedTree_wellFormed : listedTree.WellFormed :=
  ((((wellFormed_empty ["w"] (by decide)).put _ _ (by decide) (by decide)).put _ _ (by decide)
    (by decide)).put _ _ (by decide) (by decide)).put _ _ (by decide) (by decide)

/-- A configuration with a directory for generated files, which is searched too, and with the listing
in that tree. -/
def listedConfig : Config :=
  { Config.standard with
    outputDirectory := some ⟨"./gen"⟩, supportedBrowsers := some ⟨"browsers.json"⟩ }

theorem runGenerate_listed :
    (Program.runGenerate listedTree listedConfig ⟨"."⟩).2.error? = none := by
  have hfound : featureFiles listedTree listedConfig ⟨"."⟩ =
      .ok [⟨"./pages/a.json"⟩, ⟨"./pages/a.yaml"⟩] :=
    featureFiles_of_sorted _ _ _ [⟨"./browsers.json"⟩, ⟨"./pages/a.json"⟩, ⟨"./pages/a.yaml"⟩] _
      (by decide +kernel) (by decide +kernel) (by decide +kernel) (by decide +kernel)
  rw [← Option.isNone_iff_eq_none, runGenerate_of_found _ _ _ _ hfound]
  decide +kernel

theorem runGenerate_again_listed :
    (Program.runGenerate listedTree listedConfig ⟨"."⟩).2.error? = none ∧
      (∃ found, featureFiles listedTree listedConfig ⟨"."⟩ = .ok found ∧
        featureFiles (Program.runGenerate listedTree listedConfig ⟨"."⟩).1 listedConfig ⟨"."⟩ =
          .ok found) ∧
      (Program.runGenerate (Program.runGenerate listedTree listedConfig ⟨"."⟩).1 listedConfig
        ⟨"."⟩).2.error? = none ∧
      (Program.runGenerate listedTree listedConfig ⟨"."⟩).1.Same
        (Program.runGenerate (Program.runGenerate listedTree listedConfig ⟨"."⟩).1 listedConfig
          ⟨"."⟩).1 := by
  have hlisting : ∀ listing, listedConfig.supportedBrowsers = some listing →
      listedTree.isFile listing = true := by
    rintro listing ⟨rfl⟩
    decide +kernel
  exact ⟨runGenerate_listed, Program.runGenerate_again listedTree listedTree_wellFormed listedConfig
    rfl rfl hlisting ⟨"."⟩ runGenerate_listed⟩

end CrossBrowser
