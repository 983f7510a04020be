import CrossBrowser.Output.Generated

/-! Two ways from a file to its feature.

A feature is loaded by itself (`Feature.load`), and on the way to the file that is generated for it
(`GeneratedFile.loading`, of which `generate_eq_loading` says that it is part of generating). Both
read the file, decode its bytes and read its text as a feature, and they come to the same, except
where the bytes of the file are no text: there the one has failed to read the file, and the other to
decode the feature (`loads_agree_iff`). -/
namespace CrossBrowser

/-- The same outcome of loading a feature twice: the same feature, or errors of one kind, each kind
having a code of its own. -/
def Feature.Agrees : Except Error Feature → Except Error Feature → Prop
  | .ok f, .ok g => f = g
  | .error e, .error e' => e.code = e'.code
  | _, _ => False

theorem Feature.Agrees.refl (loaded : Except Error Feature) : Agrees loaded loaded := by
  cases loaded <;> rfl

namespace GeneratedFile

/-- What a file is generated from: the bytes of its source, and the feature that they hold. -/
def loading (t : FileTree) (source : Path) : Except Error (ByteArray × Feature) :=
  match t.read? source with
  | none => .error (.file .read source)
  | some bytes => do
    let text ← (Text.decodeUtf8 bytes).mapError fun fault =>
      .undecodedFeature source (.notText fault)
    return (bytes, ← Feature.ofSource source text)

/-- The file that is generated from a feature and the bytes of its source. -/
def ofLoaded (c : Config) (source root : Path) (bytes : ByteArray) (f : Feature) :
    Except Error GeneratedFile := do
  let fingerprint := Digest.fingerprint bytes
  let (testClass, contents) ←
    (render c f ⟨source.fileName?, some fingerprint⟩).mapError .invalidFeature
  return { source, output := Output.path c source root, contents, fingerprint
           className := testClass.name, caseCount := testClass.totalCases }

/-- A source whose bytes are no text. -/
def NoText (t : FileTree) (source : Path) (fault : Text.Utf8Fault) : Prop :=
  ∃ bytes, t.read? source = some bytes ∧ Text.decodeUtf8 bytes = .error fault

section
variable (t : FileTree) (source : Path)

/-- Generating for a source is loading its feature and going on from there. -/
theorem generate_eq_loading (c : Config) (root : Path) :
    generate t c source root =
      loading t source >>= fun (bytes, f) => ofLoaded c source root bytes f := by
  unfold generate loading ofBytes
  cases t.read? source with
  | none => rfl
  | some bytes =>
    cases hdecode : Text.decodeUtf8 bytes with
    | error fault => simp only [hdecode]; rfl
    | ok text =>
      simp only [hdecode]
      show (Feature.ofSource source text >>= _) = (Feature.ofSource source text >>= _) >>= _
      cases Feature.ofSource source text <;> rfl

/-- Where the bytes of a source are no text, the file cannot be read for the one way of loading, and
the feature not be decoded for the other. -/
theorem loads_of_noText (fault : Text.Utf8Fault) (h : NoText t source fault) :
    Feature.load t source = .error (.file .read source) ∧
      loading t source = .error (.undecodedFeature source (.notText fault)) := by
  obtain ⟨bytes, hread, hdecode⟩ := h
  constructor
  · rw [Feature.load, FileTree.readText, hread, Option.map_some, hdecode]
    rfl
  · rw [loading, hread]
    simp only [hdecode]
    rfl

/-- Anywhere else the two ways are one. -/
theorem load_eq_loading (h : ∀ fault, ¬NoText t source fault) :
    Feature.load t source = (loading t source).map Prod.snd := by
  rw [Feature.load, FileTree.readText, loading]
  cases hread : t.read? source with
  | none => rfl
  | some bytes =>
    rw [Option.map_some]
    cases hdecode : Text.decodeUtf8 bytes with
    | error fault => exact absurd ⟨bytes, hread, hdecode⟩ (h fault)
    | ok text =>
      simp only [hdecode]
      show Feature.ofSource source text = (Feature.ofSource source text >>= _).map Prod.snd
      cases Feature.ofSource source text <;> rfl

/-- **Both ways of loading a feature agree exactly where the bytes of its file are text, or there is
no file.** They come to the same feature or the same error then. Where the bytes are no text, the
one fails to read the file and the other fails to decode the feature, and so does generating. -/
theorem loads_agree_iff :
    (Feature.Agrees (Feature.load t source) ((loading t source).map Prod.snd) ↔
        ∀ fault, ¬NoText t source fault) ∧
      (Feature.load t source = (loading t source).map Prod.snd ↔
        ∀ fault, ¬NoText t source fault) ∧
      ∀ fault, NoText t source fault →
        Feature.load t source = .error (.file .read source) ∧
          ∀ c root, generate t c source root =
            .error (.undecodedFeature source (.notText fault)) := by
  have hdiffer : ∀ fault, NoText t source fault →
      ¬Feature.Agrees (Feature.load t source) ((loading t source).map Prod.snd) := by
    intro fault h
    obtain ⟨hload, hloading⟩ := loads_of_noText t source fault h
    rw [hload, hloading]
    show ¬"browsercase::io::failed" = "browsercase::model::decode"
    decide
  have hsame := load_eq_loading t source
  refine ⟨⟨fun hagrees fault h => hdiffer fault h hagrees, fun h => ?_⟩,
    ⟨fun heq fault h => hdiffer fault h ?_, hsame⟩, fun fault h => ?_⟩
  · rw [hsame h]
    exact .refl _
  · rw [heq]
    exact .refl _
  · obtain ⟨hload, hloading⟩ := loads_of_noText t source fault h
    refine ⟨hload, fun c root => ?_⟩
    rw [generate_eq_loading, hloading]
    rfl

end

/-- The bytes of a line whose last letter is in another encoding. -/
def foreignLine : ByteArray := .mk #[116, 105, 116, 108, 101, 58, 32, 67, 97, 102, 233, 10]

theorem decodeUtf8_foreignLine :
    Text.decodeUtf8 foreignLine = .error (.invalid 10 1) := by
  have hnone : String.fromUTF8? foreignLine = none := by decide +kernel
  have hfault : Text.utf8Fault foreignLine = .invalid 10 1 := by decide +kernel
  rw [Text.decodeUtf8, hnone, hfault]

theorem loads_agree_iff_foreign :
    let t : FileTree := ⟨[(["latin1.yaml"], .file foreignLine)], []⟩
    NoText t ⟨"latin1.yaml"⟩ (.invalid 10 1) ∧
      Feature.load t ⟨"latin1.yaml"⟩ = .error (.file .read ⟨"latin1.yaml"⟩) ∧
      ∀ c root, generate t c ⟨"latin1.yaml"⟩ root =
        .error (.undecodedFeature ⟨"latin1.yaml"⟩ (.notText (.invalid 10 1))) := by
  intro t
  have h : NoText t ⟨"latin1.yaml"⟩ (.invalid 10 1) := by
    refine ⟨foreignLine, ?_, decodeUtf8_foreignLine⟩
    have hlocate : t.locate? ⟨"latin1.yaml"⟩ = some ["latin1.yaml"] := by decide +kernel
    rw [FileTree.read?, hlocate]
    rfl
  exact ⟨h, (loads_agree_iff t ⟨"latin1.yaml"⟩).2.2 _ h⟩

end GeneratedFile
end CrossBrowser
