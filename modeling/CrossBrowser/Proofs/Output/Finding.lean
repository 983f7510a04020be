import CrossBrowser.Output.Generated
import CrossBrowser.Proofs.FileTree.Changing
import CrossBrowser.Proofs.Output.Naming
import CrossBrowser.Proofs.Path.Order

/-! The files that a search finds.

A search of a directory finds files below it, each once, in the order of their paths
(`featureFiles_directory`), and each by the root and the names that lead down from it. When a tree has
grown, a search finds none of its old files that it did not find before: the listing of supported
browsers can only come to be recognised (`isFeatureFile_of_grows`), and that not if it was there to
begin with (`isFeatureFile_grows_iff`). -/
namespace CrossBrowser
open CrossBrowser.Path FileTree Discovery

/-! ### The files below a directory -/

theorem below?_eq_some_iff (l k : Location) (names : List String) :
    filesBelow.below? l k = some names ↔ names ≠ [] ∧ k = l ++ names := by
  unfold filesBelow.below?
  constructor
  · intro h
    split at h
    · next hk =>
      obtain ⟨rest, rfl⟩ := List.isPrefixOf_iff_prefix.mp hk.2
      rw [List.drop_left' rfl] at h
      obtain rfl := Option.some.inj h
      exact ⟨fun hnil => hk.1 (by rw [hnil, List.append_nil]), rfl⟩
    · cases h
  · rintro ⟨hne, rfl⟩
    have hprefix : l.isPrefixOf (l ++ names) = true :=
      List.isPrefixOf_iff_prefix.mpr (List.prefix_append l names)
    rw [if_pos ⟨fun he => hne (List.append_right_eq_self.mp he.symm), hprefix⟩,
      List.drop_left' rfl]

theorem mem_filesBelow (t : FileTree) (l : Location) (root p : Path) :
    p ∈ t.filesBelow l root ↔
      ∃ names contents, names ≠ [] ∧ (l ++ names, .file contents) ∈ t.entries ∧
        p = root.join ⟨"/".intercalate names⟩ := by
  unfold filesBelow
  rw [List.mem_filterMap]
  constructor
  · rintro ⟨⟨k, e⟩, hmem, he⟩
    cases e with
    | directory => cases he
    | file contents =>
      obtain ⟨names, hnames, rfl⟩ := Option.map_eq_some_iff.mp he
      obtain ⟨hne, rfl⟩ := (below?_eq_some_iff l k names).mp hnames
      exact ⟨names, contents, hne, hmem, rfl⟩
  · rintro ⟨names, contents, hne, hmem, rfl⟩
    refine ⟨_, hmem, Option.map_eq_some_iff.mpr ⟨names, ?_, rfl⟩⟩
    exact (below?_eq_some_iff l _ names).mpr ⟨hne, rfl⟩

theorem components_of_entry (t : FileTree) (hw : t.WellFormed) (l : Location) (root : Path)
    (names : List String) (e : Entry) (h : (l ++ names, e) ∈ t.entries) :
    (root.join ⟨"/".intercalate names⟩).components = root.components ++ names.map .name :=
  components_join_names root names fun name hname =>
    hw.proper _ h name (List.mem_append_right l hname)

/-- Files below a directory have different components. -/
theorem filesBelow_pairwise (t : FileTree) (hw : t.WellFormed) (l : Location) (root : Path) :
    (t.filesBelow l root).Pairwise fun p q => p.components ≠ q.components := by
  have hentry : ∀ k contents p, (k, Entry.file contents) ∈ t.entries →
      (filesBelow.below? l k).map (fun names => root.join ⟨"/".intercalate names⟩) = some p →
      ∃ names, k = l ++ names ∧ p.components = root.components ++ names.map .name := by
    intro k contents p hmem hp
    obtain ⟨names, hnames, rfl⟩ := Option.map_eq_some_iff.mp hp
    obtain ⟨_, rfl⟩ := (below?_eq_some_iff l k names).mp hnames
    exact ⟨names, rfl, components_of_entry t hw l root names _ hmem⟩
  unfold filesBelow
  rw [List.pairwise_filterMap]
  have hkeys : t.entries.Pairwise fun a b => a.1 ≠ b.1 := List.pairwise_map.mp hw.nodup
  refine hkeys.imp_of_mem ?_
  rintro ⟨k, e⟩ ⟨k', e'⟩ hk hk' hne p hp q hq he
  cases e with
  | directory => cases hp
  | file contents =>
    cases e' with
    | directory => cases hq
    | file contents' =>
      obtain ⟨names, rfl, hcomponents⟩ := hentry k contents p hk hp
      obtain ⟨names', rfl, hcomponents'⟩ := hentry k' contents' q hk' hq
      rw [hcomponents, hcomponents'] at he
      have hsame := (List.map_inj_right fun _ _ => Component.name.inj).mp
        (List.append_cancel_left he)
      exact hne (congrArg (l ++ ·) hsame)

/-- A file found below a directory lies below it. -/
theorem liesBelow_of_mem (t : FileTree) (hw : t.WellFormed) (l : Location) (root p : Path)
    (extension : String) (h : p ∈ t.filesBelow l root) (he : p.extension? = some extension) :
    ∃ folders stem, LiesBelow root p folders stem extension := by
  obtain ⟨names, contents, hne, hmem, rfl⟩ := (mem_filesBelow t l root p).mp h
  obtain ⟨folders, name, hnames⟩ := (List.eq_nil_or_concat names).resolve_left hne
  have hcomponents := components_of_entry t hw l root names _ hmem
  rw [hnames, List.concat_eq_append] at hcomponents
  rw [hnames, List.concat_eq_append] at he ⊢
  obtain ⟨stem, hstem⟩ := LiesBelow.of_components name hcomponents he
  exact ⟨folders, stem, hstem⟩

/-! ### A search -/

theorem featureFiles_file (t : FileTree) (c : Config) (root : Path) (h : t.isFile root = true) :
    featureFiles t c root = .ok [root] := by
  rw [featureFiles, if_pos h]

/-- A search of a directory finds the files below it that hold features, and nothing else, in the
order of their paths. -/
theorem featureFiles_directory (t : FileTree) (hw : t.WellFormed) (c : Config) (root : Path)
    (l : Location) (h : t.isFile root = false) (hfind : t.find? root = some l) :
    ∃ found, featureFiles t c root = .ok found ∧
      (∀ p, p ∈ found ↔ p ∈ t.filesBelow l root ∧ isFeatureFile t c p = true) ∧
      found.Pairwise Precedes := by
  have hwalk : t.walk? root = some (t.filesBelow l root) := by
    rw [walk?, hfind, Option.map_some]
  refine ⟨((t.filesBelow l root).filter (isFeatureFile t c)).mergeSort Path.le, ?_, fun p => ?_, ?_⟩
  · rw [featureFiles, if_neg (Bool.eq_false_iff.mp h), hwalk]
  · rw [List.mem_mergeSort, List.mem_filter]
  · exact pairwise_mergeSort_le _ ((filesBelow_pairwise t hw l root).sublist List.filter_sublist)

/-- A search of a directory in which files already come in the order of their paths. -/
theorem featureFiles_of_sorted (t : FileTree) (c : Config) (root : Path) (paths found : List Path)
    (hfile : t.isFile root = false) (hwalk : t.walk? root = some paths)
    (hfilter : paths.filter (isFeatureFile t c) = found)
    (hsorted : found.Pairwise fun p q => Path.le p q = true) :
    featureFiles t c root = .ok found := by
  rw [featureFiles, if_neg (Bool.eq_false_iff.mp hfile), hwalk]
  show Except.ok ((paths.filter (isFeatureFile t c)).mergeSort Path.le) = .ok found
  rw [hfilter, List.mergeSort_of_pairwise hsorted]

/-- What is found where there is no file is found in a directory. -/
theorem find?_of_featureFiles (t : FileTree) (c : Config) (root : Path) (found : List Path)
    (h : t.isFile root = false) (hok : featureFiles t c root = .ok found) :
    ∃ l, t.find? root = some l ∧ t.isDirectory l = true := by
  rw [featureFiles, if_neg (Bool.eq_false_iff.mp h)] at hok
  cases hfind : t.find? root with
  | none =>
    rw [walk?, hfind] at hok
    cases hok
  | some l =>
    refine ⟨l, rfl, ?_⟩
    obtain ⟨hlocate, hoccupied⟩ := (find?_eq_some_iff t root l).mp hfind
    rw [isDirectory_iff]
    cases hoccupant : t.occupant? l with
    | none =>
      rw [hoccupant] at hoccupied
      cases hoccupied
    | some e =>
      cases e with
      | directory => rfl
      | file contents =>
        have hread : t.read? root = some contents := by
          rw [read?, hlocate, Option.bind_some]
          exact (contents?_eq_some_iff t l contents).mpr hoccupant
        rw [isFile, hread] at h
        cases h

theorem isFile_of_isDirectory (t : FileTree) (root : Path) (l : Location)
    (hfind : t.find? root = some l) (hdir : t.isDirectory l = true) : t.isFile root = false := by
  rw [isFile, read?, ((find?_eq_some_iff t root l).mp hfind).1, Option.bind_some, contents?,
    (isDirectory_iff t l).mp hdir]
  rfl

/-- A directory is searched as a directory when the tree has grown. -/
theorem directory_of_grows {t t' : FileTree} (hg : t.Grows t') (root : Path) (l : Location)
    (hfind : t.find? root = some l) (hdir : t.isDirectory l = true) :
    t'.find? root = some l ∧ t'.isFile root = false := by
  have hfind' := hg.find? root l hfind
  exact ⟨hfind', isFile_of_isDirectory t' root l hfind' (hg.directories l hdir)⟩

theorem find?_of_isFile (t : FileTree) (p : Path) (h : t.isFile p = true) :
    (t.find? p).isSome := by
  obtain ⟨contents, hread⟩ := Option.isSome_iff_exists.mp h
  obtain ⟨l, hlocate, hcontents⟩ := Option.bind_eq_some_iff.mp hread
  have hoccupied : (t.occupant? l).isSome := by
    rw [(contents?_eq_some_iff t l contents).mp hcontents]
    rfl
  rw [(find?_eq_some_iff t p l).mpr ⟨hlocate, hoccupied⟩]
  rfl

/-- The listing of supported browsers can only come to be recognised in a tree that grows. -/
theorem isFeatureFile_of_grows {t t' : FileTree} (hg : t.Grows t') (c : Config) (p : Path)
    (h : isFeatureFile t' c p = true) : isFeatureFile t c p = true := by
  unfold isFeatureFile at h ⊢
  obtain ⟨hrest, hlisting⟩ := Bool.and_eq_true_iff.mp h
  refine Bool.and_eq_true_iff.mpr ⟨hrest, ?_⟩
  cases hsupported : c.supportedBrowsers with
  | none => rfl
  | some listing =>
    rw [hsupported] at hlisting
    cases hsame : t.sameFile listing p with
    | false =>
      show (!t.sameFile listing p) = true
      rw [hsame]
      rfl
    | true =>
      have hfalse : (!t'.sameFile listing p) = true := hlisting
      rw [hg.sameFile listing p hsame] at hfalse
      cases hfalse

/-- Growing does not change which of the files that are there hold features, if the listing is
there. -/
theorem isFeatureFile_grows_iff {t t' : FileTree} (hg : t.Grows t') (c : Config)
    (hlisting : ∀ listing, c.supportedBrowsers = some listing → (t.find? listing).isSome)
    (p : Path) (hp : (t.find? p).isSome) :
    isFeatureFile t' c p = true ↔ isFeatureFile t c p = true := by
  cases hsupported : c.supportedBrowsers with
  | none =>
    unfold isFeatureFile
    rw [hsupported]
    rfl
  | some listing =>
    obtain ⟨k, hk⟩ := Option.isSome_iff_exists.mp (hlisting listing hsupported)
    obtain ⟨l, hl⟩ := Option.isSome_iff_exists.mp hp
    have hsame : t'.sameFile listing p = t.sameFile listing p := by
      unfold FileTree.sameFile
      have hk := resolve?_of_find? t listing k hk
      have hl := resolve?_of_find? t p l hl
      rw [hk, hl, hg.resolve? listing k hk, hg.resolve? p l hl]
    unfold isFeatureFile
    rw [hsupported, Option.any_some, Option.any_some, hsame]

end CrossBrowser
