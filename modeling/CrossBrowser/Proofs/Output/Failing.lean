import CrossBrowser.Output.Generated
import CrossBrowser.Proofs.Generation.Acceptance

/-! Why no file is generated for a source.

On the way from a file to the class of its feature there are five things that can go wrong, one
after the other (`Fails`), and generating for the file fails with the one that does
(`generate_error_iff`). For several files it fails with what is wrong with the first of them that
anything is wrong with (`mapM_first_error`). -/
namespace CrossBrowser

theorem FileTree.readText_eq_ok_iff (t : FileTree) (p : Path) (text : String) :
    t.readText p = .ok text ↔
      ∃ bytes, t.read? p = some bytes ∧ Text.decodeUtf8 bytes = .ok text := by
  unfold readText
  cases t.read? p with
  | none => simp
  | some bytes => cases hdecode : Text.decodeUtf8 bytes <;> simp [hdecode]

/-- What a text holds, whether or not it is valid, comes of reading it in its format. -/
theorem Feature.ofSource_of_parse (source : Path) (text : String) (format : FeatureFormat)
    (f : Feature) (hformat : FeatureFormat.ofPath? source = some format)
    (hparse : parse? format text = some f) :
    ofSource source text = f.fault?.elim (.ok f) fun fault => .error (.invalidFeature fault) := by
  rw [ofSource, hformat]
  simp only [hparse]
  cases f.fault? <;> rfl

namespace GeneratedFile

/-- What goes wrong with a source: it cannot be read, or not decoded, or its feature has a fault. -/
inductive Fails (t : FileTree) (source : Path) : Error → Prop
  /-- There is no file. -/
  | unread (hread : t.read? source = none) : Fails t source (.file .read source)
  /-- The bytes of the file are no text. -/
  | notText (bytes : ByteArray) (fault : Text.Utf8Fault) (hread : t.read? source = some bytes)
      (htext : Text.decodeUtf8 bytes = .error fault) :
      Fails t source (.undecodedFeature source (.notText fault))
  /-- The name of the file does not say what format the text has. -/
  | unknownFormat (text : String) (htext : t.readText source = .ok text)
      (hformat : FeatureFormat.ofPath? source = none) : Fails t source (.unknownFormat source)
  /-- The text holds no feature. -/
  | notFeature (text : String) (format : FeatureFormat) (htext : t.readText source = .ok text)
      (hformat : FeatureFormat.ofPath? source = some format)
      (hparse : Feature.parse? format text = none) :
      Fails t source (.undecodedFeature source .notFeature)
  /-- No class is generated for the feature. -/
  | faulty (text : String) (format : FeatureFormat) (f : Feature) (fault : FeatureFault)
      (htext : t.readText source = .ok text)
      (hformat : FeatureFormat.ofPath? source = some format)
      (hparse : Feature.parse? format text = some f)
      (hfault : (Generation.faults f).head? = some fault) : Fails t source (.invalidFeature fault)

section
variable (t : FileTree) (c : Config) (source root : Path)

theorem generate_of_text (text : String) (htext : t.readText source = .ok text) :
    ∃ bytes, generate t c source root = ofBytes c source root bytes ∧
      Text.decodeUtf8 bytes = .ok text := by
  obtain ⟨bytes, hread, hdecode⟩ := (t.readText_eq_ok_iff source text).mp htext
  exact ⟨bytes, by rw [generate, hread], hdecode⟩

/-- What is wrong with a text goes wrong with its file. -/
theorem generate_of_ofSource_error (text : String) (e : Error)
    (htext : t.readText source = .ok text)
    (hsource : Feature.ofSource source text = .error e) :
    generate t c source root = .error e := by
  obtain ⟨bytes, hgenerate, hdecode⟩ := generate_of_text t c source root text htext
  rw [hgenerate, ofBytes, hdecode]
  show (do let f ← Feature.ofSource source text; _) = _
  rw [hsource]
  rfl

/-- Once a text has been read as a feature, generating fails with the first fault of the feature. -/
theorem generate_of_parse (text : String) (format : FeatureFormat) (f : Feature)
    (htext : t.readText source = .ok text) (hformat : FeatureFormat.ofPath? source = some format)
    (hparse : Feature.parse? format text = some f) (e : Error) :
    generate t c source root = .error e ↔
      ∃ fault, (Generation.faults f).head? = some fault ∧ e = .invalidFeature fault := by
  have hsource := Feature.ofSource_of_parse source text format f hformat hparse
  cases hfault : f.fault? with
  | some fault =>
    rw [hfault] at hsource
    rw [generate_of_ofSource_error t c source root text _ htext hsource, Except.error.injEq,
      Generation.faults, List.head?_append, ← f.fault?_eq_head?, hfault]
    simp [eq_comm]
  | none =>
    rw [hfault] at hsource
    obtain ⟨bytes, hgenerate, hdecode⟩ := generate_of_text t c source root text htext
    simp only [← Generation.generate_eq_error_iff c.namespaceName]
    rw [hgenerate, ofBytes, hdecode]
    show (do let f ← Feature.ofSource source text; _) = _ ↔ _
    rw [hsource]
    show (Except.mapError Error.invalidFeature (render c f _) >>= _) = _ ↔ _
    unfold render
    cases Generation.generate c.namespaceName f with
    | error fault => simp [bind, Except.bind, Except.mapError, eq_comm]
    | ok testClass => simp [bind, Except.bind, Except.mapError, pure, Except.pure]

theorem generate_of_fails (e : Error) (h : Fails t source e) :
    generate t c source root = .error e := by
  cases h with
  | unread hread => rw [generate, hread]
  | notText bytes fault hread hdecode =>
    rw [generate, hread]
    simp only [ofBytes, hdecode]
    rfl
  | unknownFormat text htext hformat =>
    refine generate_of_ofSource_error t c source root text _ htext ?_
    rw [Feature.ofSource, hformat]
  | notFeature text format htext hformat hparse =>
    refine generate_of_ofSource_error t c source root text _ htext ?_
    rw [Feature.ofSource, hformat]
    simp only [hparse]
  | faulty text format f fault htext hformat hparse hfault =>
    exact (generate_of_parse t c source root text format f htext hformat hparse _).mpr
      ⟨fault, hfault, rfl⟩

/-- There is a file for every source with which nothing goes wrong. -/
theorem fails_or_generates :
    (∃ e, Fails t source e) ∨ ∃ g, generate t c source root = .ok g := by
  cases hread : t.read? source with
  | none => exact .inl ⟨_, .unread hread⟩
  | some bytes =>
    cases hdecode : Text.decodeUtf8 bytes with
    | error fault => exact .inl ⟨_, .notText bytes fault hread hdecode⟩
    | ok text =>
      have htext := (t.readText_eq_ok_iff source text).mpr ⟨bytes, hread, hdecode⟩
      cases hformat : FeatureFormat.ofPath? source with
      | none => exact .inl ⟨_, .unknownFormat text htext hformat⟩
      | some format =>
        cases hparse : Feature.parse? format text with
        | none => exact .inl ⟨_, .notFeature text format htext hformat hparse⟩
        | some f =>
          cases hgenerate : generate t c source root with
          | ok g => exact .inr ⟨g, rfl⟩
          | error e =>
            obtain ⟨fault, hfault, -⟩ :=
              (generate_of_parse t c source root text format f htext hformat hparse e).mp hgenerate
            exact .inl ⟨_, .faulty text format f fault htext hformat hparse hfault⟩

/-- Generating for a source fails with what goes wrong with it. -/
theorem generate_error_iff (e : Error) :
    generate t c source root = .error e ↔ Fails t source e := by
  refine ⟨fun h => ?_, generate_of_fails t c source root e⟩
  rcases fails_or_generates t c source root with ⟨found, hfails⟩ | ⟨g, hg⟩
  · have hfound := generate_of_fails t c source root found hfails
    obtain rfl : found = e := Except.error.inj (hfound.symm.trans h)
    exact hfails
  · rw [hg] at h
    cases h

end
end GeneratedFile

/-- A run over a list fails with the error of the first element that has one. -/
theorem mapM_first_error {α β ε : Type} (f : α → Except ε β) (xs : List α)
    (h : ∃ x ∈ xs, ∃ e, f x = .error e) :
    ∃ before x after e, xs = before ++ x :: after ∧ (∀ y ∈ before, ∀ e, f y ≠ .error e) ∧
      f x = .error e ∧ xs.mapM f = .error e := by
  induction xs with
  | nil =>
    obtain ⟨x, hx, _⟩ := h
    cases hx
  | cons x rest ih =>
    cases hx : f x with
    | error e =>
      refine ⟨[], x, rest, e, rfl, fun y hy => absurd hy List.not_mem_nil, hx, ?_⟩
      rw [List.mapM_cons, hx]
      rfl
    | ok b =>
      have hrest : ∃ y ∈ rest, ∃ e, f y = .error e := by
        obtain ⟨y, hy, e, he⟩ := h
        rcases List.mem_cons.mp hy with rfl | hy
        · rw [hx] at he
          cases he
        · exact ⟨y, hy, e, he⟩
      obtain ⟨before, y, after, e, rfl, hbefore, hy, hrun⟩ := ih hrest
      refine ⟨x :: before, y, after, e, rfl, fun z hz e' => ?_, hy, ?_⟩
      · rcases List.mem_cons.mp hz with rfl | hz
        · rw [hx]
          exact nofun
        · exact hbefore z hz e'
      · rw [List.mapM_cons, hx, hrun]
        rfl

end CrossBrowser
