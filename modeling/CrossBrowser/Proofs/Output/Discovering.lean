import CrossBrowser.Proofs.FileTree.Rooted
import CrossBrowser.Proofs.Output.Finding
import CrossBrowser.Proofs.Path.Names

/-! What a search of a directory finds.

A search finds the files at any depth below the directory that have an accepted extension and are
neither a configuration nor the listing of supported browsers (`HoldsFeature`), and no others. As they
come in the order of their paths, in which no two are equal, it does not matter in what order the
entries of the tree are gone through (`featureFiles_exact`). -/
namespace CrossBrowser.Discovery
open CrossBrowser.Path FileTree

/-! ### What is found -/

/-- Whether a name has an accepted extension: what follows its last dot, unless that comes first, up
to the case of the letters A to Z. -/
def HasExtension (accepted : List String) (name : String) : Prop :=
  ∃ stem extension, stem ≠ "" ∧ '.' ∉ extension.toList ∧ name = stem ++ "." ++ extension ∧
    ∃ e ∈ accepted, e.toList.map Char.toLower = extension.toList.map Char.toLower

/-- Whether the listing is the file at `k`, to which the path `p` leads: it denotes that file, however
it is spelled. A listing that denotes nothing, as does one with a slash after the name of a file, may
still be the path `p` otherwise. -/
def IsListing (t : FileTree) (listing p : Path) (k : Location) : Prop :=
  t.resolve? listing = some k ∨ t.resolve? listing = none ∧ listing.components = p.components

/-- Whether folders lead from the directory at `l`, the root of a search, down to a file of this name
that holds a feature. -/
structure HoldsFeature (t : FileTree) (c : Config) (root : Path) (l : Location)
    (folders : List String) (name : String) (p : Path) : Prop where
  path : p = root.join ⟨"/".intercalate (folders ++ [name])⟩
  file : (t.contents? (l ++ (folders ++ [name]))).isSome
  extension : HasExtension c.extensions name
  not_configuration : name ≠ Config.fileName
  not_listing : ∀ listing, c.supportedBrowsers = some listing →
    ¬IsListing t listing p (l ++ (folders ++ [name]))

theorem accepts_iff (c : Config) (p : Path) (name : String) (h : p.fileName? = some name) :
    c.accepts p = true ↔ HasExtension c.extensions name := by
  have hextension : p.extension? = (splitName name).2 := by
    rw [extension?, h, Option.bind_some]
  rw [Config.accepts, hextension]
  constructor
  · intro haccepts
    cases hsplit : splitName name with
    | mk stem extension =>
      cases extension with
      | none =>
        rw [hsplit] at haccepts
        cases haccepts
      | some extension =>
        rw [hsplit, Option.any_some, List.any_eq_true] at haccepts
        obtain ⟨e, he, hagree⟩ := haccepts
        obtain ⟨hname, hstem, hdot⟩ := append_of_splitName name stem extension hsplit
        exact ⟨stem, extension, hstem, hdot, hname, e, he, eq_of_beq hagree⟩
  · rintro ⟨stem, extension, hstem, hdot, rfl, e, he, hagree⟩
    rw [splitName_of_append stem extension hstem hdot, Option.any_some, List.any_eq_true]
    exact ⟨e, he, beq_iff_eq.mpr hagree⟩

/-- A file holds a feature by its path exactly if it does by where it lies. -/
theorem isFeatureFile_iff {t : FileTree} (c : Config) {p : Path} {k : Location} {name : String}
    (hname : p.fileName? = some name) (hp : t.resolve? p = some k) :
    isFeatureFile t c p = true ↔ HasExtension c.extensions name ∧ name ≠ Config.fileName ∧
      ∀ listing, c.supportedBrowsers = some listing → ¬IsListing t listing p k := by
  have hlisting : ∀ listing, t.sameFile listing p = true ↔ IsListing t listing p k := by
    intro listing
    rw [sameFile_iff, IsListing, hp]
    constructor
    · rintro (⟨m, hm, he⟩ | hcomponents)
      · exact .inl (hm.trans he.symm)
      · cases hm : t.resolve? listing with
        | none => exact .inr ⟨rfl, hcomponents⟩
        | some m =>
          rw [resolve?_eq t listing m hm, hcomponents, ← resolve?_eq t p k hp]
          exact .inl rfl
    · exact Or.imp (fun h => ⟨k, h, rfl⟩) And.right
  rw [isFeatureFile, Bool.and_eq_true, Bool.and_eq_true, accepts_iff c p name hname, hname, and_assoc]
  refine and_congr_right fun _ => and_congr ?_ ?_
  · simp
  · cases c.supportedBrowsers with
    | none => simp
    | some listing => simp [← hlisting]

/-- A file below the root of a search holds a feature by its path exactly if it does by its name and
where it lies. -/
theorem isFeatureFile_join {t : FileTree} (hr : t.Rooted) (c : Config) {root : Path} {l : Location}
    (hroot : t.resolve? root = some l) {folders : List String} {name : String}
    {contents : ByteArray} (h : (l ++ (folders ++ [name]), .file contents) ∈ t.entries) :
    isFeatureFile t c (root.join ⟨"/".intercalate (folders ++ [name])⟩) = true ↔
      HoldsFeature t c root l folders name (root.join ⟨"/".intercalate (folders ++ [name])⟩) := by
  have hcomponents := components_of_entry t hr.toWellFormed l root _ _ h
  rw [List.map_append, ← List.append_assoc] at hcomponents
  have hfile : (t.contents? (l ++ (folders ++ [name]))).isSome := by
    rw [(contents?_eq_some_iff t _ contents).mpr ((hr.mem_entries_iff _ _).mp h).2]
    rfl
  rw [isFeatureFile_iff c (fileName?_of_components _ _ name hcomponents)
    (hr.resolve?_join root l hroot _ (List.concat_ne_nil name folders) _ h)]
  constructor
  · rintro ⟨hextension, hconfiguration, hlisting⟩
    exact ⟨rfl, hfile, hextension, hconfiguration, hlisting⟩
  · exact fun h => ⟨h.extension, h.not_configuration, h.not_listing⟩

theorem mem_filesBelow_iff {t : FileTree} (hr : t.Rooted) (c : Config) {root : Path} {l : Location}
    (hroot : t.resolve? root = some l) (p : Path) :
    p ∈ t.filesBelow l root ∧ isFeatureFile t c p = true ↔
      ∃ folders name, HoldsFeature t c root l folders name p := by
  rw [mem_filesBelow]
  constructor
  · rintro ⟨⟨names, contents, hne, hentry, rfl⟩, hfeature⟩
    obtain ⟨folders, name, rfl⟩ := (List.eq_nil_or_concat' names).resolve_left hne
    exact ⟨folders, name, (isFeatureFile_join hr c hroot hentry).mp hfeature⟩
  · rintro ⟨folders, name, h⟩
    have hne := List.concat_ne_nil name folders
    obtain ⟨contents, hcontents⟩ := Option.isSome_iff_exists.mp h.file
    have hentry : (l ++ (folders ++ [name]), Entry.file contents) ∈ t.entries :=
      (hr.mem_entries_iff _ _).mpr
        ⟨List.append_ne_nil_of_right_ne_nil l hne, (contents?_eq_some_iff t _ _).mp hcontents⟩
    obtain rfl := h.path
    exact ⟨⟨_, contents, hne, hentry, rfl⟩, (isFeatureFile_join hr c hroot hentry).mpr h⟩

/-- A search finds the same in whatever order the entries of a tree come. -/
theorem featureFiles_of_perm {t t' : FileTree} (hw : t.WellFormed)
    (hstart : t'.workingDirectory = t.workingDirectory) (hperm : t'.entries.Perm t.entries)
    (c : Config) {root : Path} {l : Location} (hroot : t.find? root = some l)
    (hdir : t.isDirectory l = true) : featureFiles t' c root = featureFiles t c root := by
  have hw' := hw.of_perm hstart hperm
  have hgrows := grows_of_perm hw hstart hperm
  have hgrows' := grows_of_perm hw' hstart.symm hperm.symm
  have hfile := isFile_of_isDirectory t root l hroot hdir
  obtain ⟨hroot', hfile'⟩ := directory_of_grows hgrows root l hroot hdir
  obtain ⟨found, hok, hmem, hsorted⟩ := featureFiles_directory t hw c root l hfile hroot
  obtain ⟨found', hok', hmem', hsorted'⟩ := featureFiles_directory t' hw' c root l hfile' hroot'
  have hiff : ∀ p, p ∈ found' ↔ p ∈ found := by
    intro p
    have hbelow : p ∈ t'.filesBelow l root ↔ p ∈ t.filesBelow l root := by
      simp only [mem_filesBelow, hperm.mem_iff]
    have hfeature : isFeatureFile t' c p = true ↔ isFeatureFile t c p = true :=
      ⟨isFeatureFile_of_grows hgrows c p, isFeatureFile_of_grows hgrows' c p⟩
    rw [hmem, hmem', hbelow, hfeature]
  rw [hok, hok', hsorted'.eq_of_mem_iff hsorted hiff]

/-- A search of a directory finds each file below it that holds a feature, and nothing else, each
once, in the order of their paths. In what order the entries of the tree come does not matter. -/
theorem featureFiles_exact (t : FileTree) (hr : t.Rooted) (c : Config) (root : Path) (l : Location)
    (hroot : t.find? root = some l) (hdir : t.isDirectory l = true) :
    ∃ found, featureFiles t c root = .ok found ∧ found.Pairwise Precedes ∧
      (∀ p, p ∈ found ↔ ∃ folders name, HoldsFeature t c root l folders name p) ∧
      ∀ t' : FileTree, t'.workingDirectory = t.workingDirectory → t'.entries.Perm t.entries →
        featureFiles t' c root = .ok found := by
  have hfile := isFile_of_isDirectory t root l hroot hdir
  obtain ⟨found, hok, hmem, hsorted⟩ :=
    featureFiles_directory t hr.toWellFormed c root l hfile hroot
  refine ⟨found, hok, hsorted, fun p => ?_, fun t' hstart hperm => ?_⟩
  · rw [hmem, mem_filesBelow_iff hr c (resolve?_of_find? t root l hroot)]
  · rw [featureFiles_of_perm hr.toWellFormed hstart hperm c hroot hdir, hok]

/-- A tree with one feature, beside a listing of browsers, a configuration and notes. -/
def mixedTree : FileTree :=
  (((((FileTree.empty ["w"]).put ["w", "pages"] .directory).put
    ["w", "pages", "a.YAML"] (.file .empty)).put
    ["w", "pages", "browsercase.yaml"] (.file .empty)).put
    ["w", "pages", "notes.txt"] (.file .empty)).put
    ["w", "browsers.json"] (.file .empty)

theorem mixedTree_rooted : mixedTree.Rooted where
  nodup := by decide +kernel
  below := by decide +kernel
  proper := by decide +kernel
  workingDirectory := by decide +kernel
  parent := by decide +kernel
  nameable := by decide +kernel
  start := by decide +kernel

theorem featureFiles_exact_mixed :
    let c : Config := { Config.standard with supportedBrowsers := some ⟨"pages/../browsers.json"⟩ }
    featureFiles mixedTree c ⟨"."⟩ = .ok [⟨"./pages/a.YAML"⟩] ∧
      (∃ folders name, HoldsFeature mixedTree c ⟨"."⟩ ["w"] folders name ⟨"./pages/a.YAML"⟩) ∧
      (¬∃ folders name, HoldsFeature mixedTree c ⟨"."⟩ ["w"] folders name ⟨"./browsers.json"⟩) ∧
      featureFiles { mixedTree with entries := mixedTree.entries.reverse } c ⟨"."⟩ =
        .ok [⟨"./pages/a.YAML"⟩] := by
  intro c
  have hfound : featureFiles mixedTree c ⟨"."⟩ = .ok [⟨"./pages/a.YAML"⟩] :=
    featureFiles_of_sorted _ _ _
      [⟨"./browsers.json"⟩, ⟨"./pages/notes.txt"⟩, ⟨"./pages/browsercase.yaml"⟩,
        ⟨"./pages/a.YAML"⟩] _
      (by decide +kernel) (by decide +kernel) (by decide +kernel) (by decide +kernel)
  obtain ⟨found, hok, -, hmem, horder⟩ :=
    featureFiles_exact mixedTree mixedTree_rooted c ⟨"."⟩ ["w"] (by decide +kernel) (by decide +kernel)
  obtain rfl := Except.ok.inj (hfound.symm.trans hok)
  exact ⟨hfound, (hmem _).mp (by decide), (hmem _).not.mp (by decide),
    horder _ rfl (List.reverse_perm _)⟩

end CrossBrowser.Discovery
