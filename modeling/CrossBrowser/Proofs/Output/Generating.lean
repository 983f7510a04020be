import CrossBrowser.Proofs.Output.Writing
import CrossBrowser.Proofs.Output.Finding
import Mathlib.Data.List.Forall2

/-! The files that are generated for the features at a path.

Each file that is generated names its source, goes where the naming of outputs says, and depends on
nothing but the bytes of its source and the configuration (`GeneratedFrom`). Files that go to one
place come from sources with the same stem, so their headers name different sources and they differ
(`Generates.differ`). No source lies where a generated file goes (`Generates.source_ne_place`). -/
namespace CrossBrowser
open CrossBrowser.Path FileTree Discovery

theorem mapM_eq_ok_iff {α β ε : Type} (f : α → Except ε β) (xs : List α) (ys : List β) :
    xs.mapM f = .ok ys ↔ List.Forall₂ (fun x y => f x = .ok y) xs ys := by
  induction xs generalizing ys with
  | nil =>
    rw [List.mapM_nil, List.forall₂_nil_left_iff]
    exact ⟨fun h => (Except.ok.inj h).symm, fun h => h ▸ rfl⟩
  | cons x rest ih =>
    rw [List.mapM_cons, List.forall₂_cons_left_iff]
    cases hx : f x with
    | error e => simp [bind, Except.bind]
    | ok y =>
      cases hrest : rest.mapM f with
      | error e =>
        constructor
        · intro h
          cases h
        · rintro ⟨_, others, _, hothers, _⟩
          rw [(ih others).mpr hothers] at hrest
          cases hrest
      | ok others =>
        constructor
        · intro h
          obtain rfl := Except.ok.inj h
          exact ⟨y, others, rfl, (ih others).mp hrest, rfl⟩
        · rintro ⟨y', others', hy, hothers, rfl⟩
          rw [(ih others').mpr hothers] at hrest
          obtain rfl := Except.ok.inj hrest
          obtain rfl := Except.ok.inj hy
          rfl

/-! ### One file -/

/-- The extension of a file that can hold a feature: not that of a generated file, and in one
line. -/
theorem extension_of_format (p : Path) (format : FeatureFormat)
    (h : FeatureFormat.ofPath? p = some format) :
    ∃ extension, p.extension? = some extension ∧ extension ≠ "cs" ∧ '\n' ∉ extension.toList := by
  unfold FeatureFormat.ofPath? at h
  cases he : p.extension? with
  | none =>
    rw [he] at h
    cases h
  | some extension =>
    rw [he, Option.map_some] at h
    refine ⟨extension, rfl, ?_, fun hline => ?_⟩
    · rintro rfl
      cases h
    · have hlower : '\n' ∈ (String.ofList (extension.toList.map Char.toLower)).toList := by
        rw [String.toList_ofList]
        exact List.mem_map.mpr ⟨'\n', hline, rfl⟩
      split at h
      · next heq => exact absurd ((Option.some.inj heq) ▸ hlower) (by decide)
      · next heq => exact absurd ((Option.some.inj heq) ▸ hlower) (by decide)
      · next heq => exact absurd ((Option.some.inj heq) ▸ hlower) (by decide)
      · cases h

/-- A file generated from a source below the root of a search. -/
structure GeneratedFrom (c : Config) (root source : Path) (g : GeneratedFile) : Prop where
  source_eq : g.source = source
  output_eq : g.output = Output.path c source root
  contents_eq : ∃ testClass fingerprint,
    g.contents = CSharp.source testClass ⟨source.fileName?, fingerprint⟩
  format : ∃ format, FeatureFormat.ofPath? source = some format

theorem GeneratedFile.render_ok (c : Config) (f : Feature) (h : CSharp.Header)
    (rendered : TestClass × String) (hr : render c f h = .ok rendered) :
    Generation.generate c.namespaceName f = .ok rendered.1 ∧
      rendered.2 = CSharp.source rendered.1 h := by
  unfold render at hr
  cases hc : Generation.generate c.namespaceName f with
  | error fault =>
    rw [hc] at hr
    cases hr
  | ok testClass =>
    rw [hc] at hr
    obtain rfl := Except.ok.inj hr
    exact ⟨rfl, rfl⟩

theorem GeneratedFile.ofBytes_ok (c : Config) (source root : Path) (bytes : ByteArray)
    (g : GeneratedFile) (h : ofBytes c source root bytes = .ok g) :
    GeneratedFrom c root source g := by
  unfold ofBytes at h
  cases htext : Text.decodeUtf8 bytes with
  | error fault =>
    rw [htext] at h
    cases h
  | ok text =>
    rw [htext] at h
    cases hf : Feature.ofSource source text with
    | error e =>
      simp only [Except.mapError, bind, Except.bind, hf] at h
      cases h
    | ok f =>
      have hformat : ∃ format, FeatureFormat.ofPath? source = some format := by
        refine Option.ne_none_iff_exists'.mp fun hnone => ?_
        rw [Feature.ofSource, hnone] at hf
        cases hf
      cases hr : render c f ⟨source.fileName?, some (Digest.fingerprint bytes)⟩ with
      | error fault =>
        simp only [Except.mapError, bind, Except.bind, hf, hr] at h
        cases h
      | ok rendered =>
        simp only [Except.mapError, bind, Except.bind, hf, hr] at h
        obtain rfl := Except.ok.inj h
        exact ⟨rfl, rfl, ⟨_, _, (render_ok c f _ rendered hr).2⟩, hformat⟩

theorem GeneratedFile.generate_ok (t : FileTree) (c : Config) (source root : Path)
    (g : GeneratedFile) (h : generate t c source root = .ok g) :
    (∃ l contents, t.locate? source = some l ∧ t.contents? l = some contents) ∧
      GeneratedFrom c root source g := by
  unfold generate at h
  cases hread : t.read? source with
  | none =>
    rw [hread] at h
    cases h
  | some bytes =>
    rw [hread] at h
    obtain ⟨l, hlocate, hcontents⟩ := Option.bind_eq_some_iff.mp hread
    exact ⟨⟨l, bytes, hlocate, hcontents⟩, ofBytes_ok c source root bytes g h⟩

/-- What is generated for a source depends on its bytes alone. -/
theorem GeneratedFile.generate_congr (t t' : FileTree) (c : Config) (source root : Path)
    (h : t'.read? source = t.read? source) :
    generate t' c source root = generate t c source root := by
  unfold generate
  rw [h]

/-! ### All files -/

theorem forall₂_iff_map (f : Path → Except Error GeneratedFile)
    (hsource : ∀ p g, f p = .ok g → g.source = p) (found : List Path)
    (files : List GeneratedFile) :
    List.Forall₂ (fun p g => f p = .ok g) found files ↔
      found = files.map (·.source) ∧ ∀ g ∈ files, f g.source = .ok g := by
  induction files generalizing found with
  | nil => simp
  | cons g rest ih =>
    rw [List.forall₂_cons_right_iff]
    constructor
    · rintro ⟨p, others, hg, hrest, rfl⟩
      obtain ⟨hothers, hall⟩ := (ih others).mp hrest
      have hp := hsource p g hg
      refine ⟨by rw [List.map_cons, hp, hothers], fun g' hg' => ?_⟩
      rcases List.mem_cons.mp hg' with rfl | hg'
      · rw [hp]
        exact hg
      · exact hall g' hg'
    · rintro ⟨rfl, hall⟩
      refine ⟨g.source, rest.map (·.source), hall g List.mem_cons_self, ?_, rfl⟩
      exact (ih _).mpr ⟨rfl, fun g' hg' => hall g' (List.mem_cons_of_mem g hg')⟩

namespace GeneratedFile

/-- Everything at a path is generated if each file that is found is. -/
theorem generateAll_eq_ok_iff (t : FileTree) (c : Config) (path : Path)
    (files : List GeneratedFile) :
    generateAll t c path = .ok files ↔
      featureFiles t c path = .ok (files.map (·.source)) ∧
        ∀ g ∈ files, generate t c g.source (searchRoot t path) = .ok g := by
  have hsource : ∀ p g, generate t c p (searchRoot t path) = .ok g → g.source = p :=
    fun p g hg => (generate_ok t c p _ g hg).2.source_eq
  unfold generateAll
  cases hfound : featureFiles t c path with
  | error e =>
    constructor
    · intro h
      cases h
    · rintro ⟨h, _⟩
      cases h
  | ok found =>
    show found.mapM (fun source => generate t c source (searchRoot t path)) = .ok files ↔ _
    rw [mapM_eq_ok_iff, forall₂_iff_map _ hsource, Except.ok.injEq]

/-- What a run generates: the sources are different files that can be read, and each lies below the
root of the search. -/
structure Generates (t : FileTree) (c : Config) (path : Path) (files : List GeneratedFile) :
    Prop where
  distinct : files.Pairwise fun g g' => g.source.components ≠ g'.source.components
  below : ∀ g ∈ files, ∃ folders stem extension,
    LiesBelow (searchRoot t path) g.source folders stem extension ∧
      extension ≠ "cs" ∧ '\n' ∉ extension.toList
  generated : ∀ g ∈ files, generate t c g.source (searchRoot t path) = .ok g

/-- The file that a path denotes lies below its own directory. -/
theorem liesBelow_file (t : FileTree) (path : Path) (h : t.isFile path = true)
    (extension : String) (he : path.extension? = some extension) :
    ∃ stem, LiesBelow (searchRoot t path) path [] stem extension := by
  obtain ⟨name, hname, _⟩ := Option.bind_eq_some_iff.mp he
  obtain ⟨C, hC⟩ := components_of_fileName? path name hname
  obtain ⟨q, hparent, hq⟩ := parent?_of_components path C _ hC (fun he => by cases he)
  have hroot : searchRoot t path = q := by
    rw [searchRoot, if_pos h, hparent, Option.getD_some]
  refine LiesBelow.of_components name ?_ he
  rw [hroot, hq, hC]
  rfl

theorem generates_of_generateAll (t : FileTree) (hw : t.WellFormed) (c : Config) (path : Path)
    (files : List GeneratedFile) (h : generateAll t c path = .ok files) :
    Generates t c path files := by
  obtain ⟨hfound, hall⟩ := (generateAll_eq_ok_iff t c path files).mp h
  have hextension : ∀ g ∈ files, ∃ extension, g.source.extension? = some extension ∧
      extension ≠ "cs" ∧ '\n' ∉ extension.toList := by
    intro g hg
    obtain ⟨format, hformat⟩ := (generate_ok t c _ _ g (hall g hg)).2.format
    exact extension_of_format g.source format hformat
  cases hfile : t.isFile path with
  | true =>
    rw [featureFiles_file t c path hfile] at hfound
    have hsources : files.map (·.source) = [path] := (Except.ok.inj hfound).symm
    refine ⟨?_, fun g hg => ?_, hall⟩
    · have hpairwise : (files.map (·.source)).Pairwise fun p q => p.components ≠ q.components := by
        rw [hsources]
        exact List.pairwise_singleton _ path
      rwa [List.pairwise_map] at hpairwise
    · obtain ⟨extension, he, hne, hline⟩ := hextension g hg
      have hg' : g.source = path := by
        have hmem : g.source ∈ files.map (·.source) := List.mem_map_of_mem hg
        rw [hsources] at hmem
        exact List.mem_singleton.mp hmem
      rw [hg'] at he ⊢
      obtain ⟨stem, hstem⟩ := liesBelow_file t path hfile extension he
      exact ⟨[], stem, extension, hstem, hne, hline⟩
  | false =>
    obtain ⟨l, hfind, _⟩ := find?_of_featureFiles t c path _ hfile hfound
    obtain ⟨found, hok, hmem, hdistinct⟩ := featureFiles_directory t hw c path l hfile hfind
    obtain rfl : found = files.map (·.source) := Except.ok.inj (hok.symm.trans hfound)
    have hroot : searchRoot t path = path := by
      rw [searchRoot, if_neg (Bool.eq_false_iff.mp hfile)]
    refine ⟨(List.pairwise_map.mp hdistinct).imp And.right, fun g hg => ?_, hall⟩
    obtain ⟨extension, he, hne, hline⟩ := hextension g hg
    obtain ⟨hbelow, _⟩ := (hmem g.source).mp (List.mem_map_of_mem hg)
    obtain ⟨folders, stem, hstem⟩ := liesBelow_of_mem t hw l path g.source extension hbelow he
    refine ⟨folders, stem, extension, ?_, hne, hline⟩
    rw [hroot]
    exact hstem

section
variable {t : FileTree} {c : Config} {path : Path} {files : List GeneratedFile}
  (hsuffix : c.fileSuffix = Config.standard.fileSuffix) (h : Generates t c path files)
include hsuffix h

/-- Files go to one place exactly if their sources share folder and stem. -/
theorem Generates.place_eq_iff (g g' : GeneratedFile) (hg : g ∈ files) (hg' : g' ∈ files) :
    g.place t = g'.place t ↔ g.source.SharesStem g'.source := by
  obtain ⟨folders, stem, extension, hbelow, _⟩ := h.below g hg
  obtain ⟨folders', stem', extension', hbelow', _⟩ := h.below g' hg'
  rw [place, place, (generate_ok _ _ _ _ g (h.generated g hg)).2.output_eq,
    (generate_ok _ _ _ _ g' (h.generated g' hg')).2.output_eq]
  exact Output.place_eq_iff c hsuffix _ hbelow hbelow'

/-- Files that go to one place differ. -/
theorem Generates.differ :
    files.Pairwise fun g g' => g.place t = g'.place t → g.contents ≠ g'.contents := by
  refine h.distinct.imp_of_mem fun {g g'} hg hg' hne hplace => ?_
  have hshares := (h.place_eq_iff hsuffix g g' hg hg').mp hplace
  obtain ⟨folders, stem, extension, hbelow, _, hline⟩ := h.below g hg
  obtain ⟨folders', stem', extension', hbelow', _, hline'⟩ := h.below g' hg'
  obtain ⟨testClass, fingerprint, hcontents⟩ :=
    (generate_ok _ _ _ _ g (h.generated g hg)).2.contents_eq
  obtain ⟨testClass', fingerprint', hcontents'⟩ :=
    (generate_ok _ _ _ _ g' (h.generated g' hg')).2.contents_eq
  have hstem : stem = stem' := by
    have hstems := hshares.stem
    rw [hbelow.stem?_eq, hbelow'.stem?_eq] at hstems
    exact Option.some.inj hstems
  have hextension : extension ≠ extension' := by
    intro he
    refine hne ?_
    have hfolder := hshares.folder
    rw [hbelow.folder_eq, hbelow'.folder_eq] at hfolder
    rw [hbelow.components_concat, hbelow'.components_concat, Option.some.inj hfolder, hstem, he]
  rw [hcontents, hcontents', hbelow.fileName?_eq, hbelow'.fileName?_eq, ← hstem]
  exact CSharp.source_ne _ _ _ _ _ _ _ hextension hline hline'

/-- No source lies where a generated file goes. -/
theorem Generates.source_ne_place (g g' : GeneratedFile) (hg : g ∈ files) (hg' : g' ∈ files)
    (l : Location) (hlocate : t.locate? g.source = some l) : l ≠ g'.place t := by
  obtain ⟨folders, stem, extension, hbelow, hcs, _⟩ := h.below g hg
  obtain ⟨folders', stem', extension', hbelow', _⟩ := h.below g' hg'
  intro he
  have hl : l = placeOf t.workingDirectory (searchRoot t path).components ++
      folders ++ [stem ++ "." ++ extension] := by
    rw [locate?_eq t g.source l hlocate, hbelow.components, placeOf_append, placeOf_names,
      List.append_assoc]
  have hplace : g'.place t = placeOf t.workingDirectory (Output.base c (searchRoot t path)) ++
      folders' ++ [Output.outputName stem'] := by
    rw [place, (generate_ok _ _ _ _ g' (h.generated g' hg')).2.output_eq,
      Output.place_eq c hsuffix _ hbelow', List.append_assoc]
  rw [hl, hplace] at he
  have hname := List.singleton_inj.mp (List.append_inj' he rfl).2
  have hsplit := congrArg splitName hname
  rw [splitName_of_append stem extension hbelow.stem_ne hbelow.no_dot,
    Output.splitName_outputName] at hsplit
  exact hcs (Option.some.inj (Prod.mk.inj hsplit).2)

end

end GeneratedFile
end CrossBrowser
