import CrossBrowser.Proofs.CSharp.Source
import CrossBrowser.Proofs.Generation.Shape
import CrossBrowser.Proofs.Naming.Characters
import CrossBrowser.Proofs.Output.Generating

/-! A source text tells the class it was made from.

Titles, tags, arguments and reasons stand in string literals, which end where they end whatever is
in them, and names of methods and classes follow from the titles. So a text is read from the top:
each part tells what it was made from and where the next one begins, and in the end nothing of the
class is left open but what is not written at all (`written`). -/
namespace CrossBrowser

/-- What of a test method is written: all but its notes, and of the cases all but their origins. -/
def TestMethod.written (m : TestMethod) : TestMethod :=
  { m with cases := m.cases.map TestCase.written, metadata := .empty }

/-- What of a test class is written: of its methods, what is written of them. -/
def TestClass.written (c : TestClass) : TestClass :=
  { c with methods := c.methods.map TestMethod.written }

namespace Generation
open RemoteBrowser CSharp Text

/-! ### Methods -/

theorem wordlike_ne_sign {c : Char} (h : Naming.Wordlike c.toNat) : c ≠ ',' ∧ c ≠ ')' := by
  constructor <;> rintro rfl <;> exact absurd h (by decide)

theorem plainParameter_string {name : String} (h : ∀ c ∈ name.toList, c ≠ ',' ∧ c ≠ ')') :
    PlainParameter ⟨"string", name, none⟩ :=
  ⟨rfl, by simp, h⟩

/-- The parameters of a method have none of the signs around a parameter in their names. -/
theorem plainParameter_of_mem (s : Scenario) :
    ∀ p ∈ (shapedMethod s).parameters, PlainParameter p := by
  refine forall_parameters s (plainParameter_string (by simp [browserParameter]))
    (fun t _ name hname => plainParameter_string fun c hc => ?_)
    ⟨rfl, by simp, by simp [tagsParameter]⟩
  exact wordlike_ne_sign (Naming.wordlike_parameterNames _ _ name hname c hc)

theorem reset_ne_assign (d : Nat) (r s : List Char) :
    laid d (statementSteps .resetBrowser) ++ r ≠
      laid d (statementSteps (.assignBrowser browserParameter)) ++ s := by
  intro h
  have hne : "_currentBrowserConfiguration = " ++ browserParameter ++ ";" ≠ "" := by decide
  simp only [statementSteps, laid_line, indented_toList d hne, List.append_assoc,
    indented_toList d (show "_currentBrowserConfiguration = null;" ≠ "" by decide),
    List.append_cancel_left_eq] at h
  simp [browserParameter] at h

/-- The first statement of a method tells whether the method takes a browser. -/
theorem tells_firstStatement (d : Nat) :
    Tells (fun s => laid d (statementSteps (firstStatement s))) firstStatement := by
  intro a b r s h
  simp only [firstStatement] at h ⊢
  split_ifs at h ⊢
  · exact ⟨rfl, List.append_cancel_left h⟩
  · exact absurd h (reset_ne_assign d r s)
  · exact absurd h.symm (reset_ne_assign d s r)
  · exact ⟨rfl, List.append_cancel_left h⟩

/-- The text of the method of a scenario tells all that is written of the method. -/
theorem tells_method (d : Nat) :
    Tells (fun s => laid d (.blank :: testMethodSteps (shapedMethod s)))
      (fun s => (shapedMethod s).written) := by
  intro a b r s h
  simp only [laid_blank, laid_testMethodSteps, List.cons_append, List.append_assoc] at h
  obtain ⟨htitle, hcategories, h⟩ :=
    description_tells (foreign_afterCategories d (shapedMethod a) r)
      (foreign_afterCategories d (shapedMethod b) s) (List.cons.inj h).2
  obtain ⟨hcases, h⟩ := (tells_caseLine d).flatMap
    (foreign_methodSteps _ _ d _ _ _ r) (foreign_methodSteps _ _ d _ _ _ s) h
  -- A name has no end of its own in the text, but the title has told it.
  have hname : (shapedMethod a).identifier = (shapedMethod b).identifier :=
    congrArg Naming.methodName htitle
  rw [hname] at h
  obtain ⟨hparameters, h⟩ :=
    methodSteps_tells (plainParameter_of_mem a) (plainParameter_of_mem b) h
  have hbody : ∀ s, laid (d + 1) ((shapedMethod s).statements.flatMap statementSteps) =
      laid (d + 1) (statementSteps (firstStatement s)) ++
        laid (d + 1) ((scenarioStatements s).flatMap statementSteps) :=
    fun s => (level_statementSteps _).laid_append _ _
  rw [hbody, hbody, List.append_assoc, List.append_assoc] at h
  obtain ⟨hfirst, h⟩ := tells_firstStatement (d + 1) h
  -- What begins the scenario repeats the title and the categories.
  have hplain : (classify a.tags).plain = (classify b.tags).plain := hcategories
  have hbegin : scenarioStatements a = scenarioStatements b := by
    rw [scenarioStatements, scenarioStatements, htitle, hplain]
  have hstatements : (shapedMethod a).statements = (shapedMethod b).statements :=
    congrArg₂ List.cons hfirst hbegin
  rw [hbegin] at h
  refine ⟨?_, List.append_cancel_left (List.append_cancel_left h)⟩
  simp only [TestMethod.written, TestMethod.mk.injEq]
  exact ⟨hname, congrArg some htitle, rfl, hcategories, hparameters, hstatements, hcases, trivial⟩

/-! ### The class -/

variable (namespaceName : String)

theorem closing_ne_registerHost (d : Nat) (r s : List Char) :
    (Layout.indented d "\x7d").toList ++ r ≠
      laid (d + 1) ([Statement.registerHost].flatMap statementSteps) ++ s := by
  show _ ≠ (Layout.indented (d + 1) _).toList ++ [] ++ s
  rw [List.append_nil]
  exact closing_ne_line d (by decide) r s

/-- The statements of the step that begins a scenario tell what they are up to the end of its
block. -/
theorem tells_scenarioInitialize (d : Nat) :
    Tells
      (fun f => laid d (.blank :: memberSteps (featureClass namespaceName f).scenarioInitialize))
      fun f => (featureClass namespaceName f).scenarioInitialize := by
  have hplain : ∀ p ∈ TestClass.scenarioInitializeMember.parameters, PlainParameter p := by
    intro p hp
    rw [List.mem_singleton.mp hp]
    exact ⟨rfl, by simp, by simp⟩
  intro f g r s h
  simp only [laid_blank, List.cons_append] at h
  obtain ⟨_, h⟩ := methodSteps_tells hplain hplain (List.cons.inj h).2
  simp only [featureClass] at h ⊢
  split_ifs at h ⊢
  · exact ⟨rfl, List.append_cancel_left h⟩
  · exact absurd h (closing_ne_registerHost d _ _)
  · exact absurd h.symm (closing_ne_registerHost d _ _)
  · exact ⟨rfl, List.append_cancel_left (List.append_cancel_left h)⟩

/-- Of the members of a class that are not tests, only the step that begins a scenario differs from
class to class. -/
theorem tells_members (d : Nat) :
    Tells (fun f => (memberList (featureClass namespaceName f)).flatMap
        fun m => laid d (.blank :: memberSteps m))
      fun f => (featureClass namespaceName f).scenarioInitialize := by
  intro f g r s h
  simp only [memberList, List.cons_append, List.nil_append, List.flatMap_cons, List.append_assoc]
    at h
  obtain ⟨hmember, h⟩ := tells_scenarioInitialize namespaceName d (List.append_cancel_left h)
  exact ⟨hmember, List.append_cancel_left (List.append_cancel_left h)⟩

/-- The end of a class is not one more method. -/
theorem foreign_classEnd (d : Nat) (r : List Char) :
    Foreign (fun s => laid d (.blank :: testMethodSteps (shapedMethod s)))
      ((Layout.indented 1 "\x7d").toList ++ r) := by
  intro s t h
  simp only [laid_blank, indented_toList 1 (show "\x7d" ≠ "" by decide)] at h
  simp [Layout.indentation] at h

/-- The text of the class of a feature tells all that is written of the class. -/
theorem tells_class :
    Tells (fun f => laid 1 (classSteps (featureClass namespaceName f)))
      fun f => (featureClass namespaceName f).written := by
  intro f g r s h
  simp only [laid_classSteps, laid_blockSteps, List.append_assoc] at h
  obtain ⟨htitle, hcategories, h⟩ :=
    description_tells (foreign_word _ _ _ (by simp [String.toList_append]) _)
      (foreign_word _ _ _ (by simp [String.toList_append]) _) h
  have hname : (featureClass namespaceName f).name = (featureClass namespaceName g).name :=
    congrArg Naming.className htitle
  rw [hname] at h
  simp only [List.append_cancel_left_eq] at h
  -- The fields are the same in all classes.
  obtain ⟨hmember, h⟩ := tells_members namespaceName 2 (List.append_cancel_left h)
  simp only [featureClass, List.flatMap_map] at h
  obtain ⟨hmethods, h⟩ :=
    (tells_method 2).flatMap (foreign_classEnd 2 r) (foreign_classEnd 2 s) h
  refine ⟨?_, List.append_cancel_left h⟩
  have hwritten : (featureClass namespaceName f).methods.map TestMethod.written =
      (featureClass namespaceName g).methods.map TestMethod.written := by
    rw [featureClass, featureClass, List.map_map, List.map_map]
    exact hmethods
  simp only [TestClass.written, TestClass.mk.injEq]
  exact ⟨rfl, hname, rfl, rfl, congrArg some htitle, hcategories, rfl, rfl, rfl, hmember, rfl,
    hwritten⟩

end Generation

namespace CSharp
open Text

/-! ### The file -/

/-- The steps of a file above the line with the fingerprint. -/
def aboveFingerprint (source : Option String) : List LayoutStep :=
  headerTop ++ (source.map fun name => LayoutStep.line ("//      Source: " ++ name)).toList

/-- The line with the fingerprint, if there is one. -/
def fingerprintSteps (fingerprint : Option String) : List LayoutStep :=
  (fingerprint.map fun value => .line ("//      Fingerprint: " ++ value)).toList

/-- The steps of a file from the line below the fingerprint to its class. -/
def belowFingerprint (namespaceName : String) (imports : List String) : List LayoutStep :=
  [LayoutStep.line "//",
    .line "//      Changes to this file may cause incorrect behavior and will be lost if",
    .line "//      the code is regenerated.",
    .line "//  </auto-generated>",
    .line "// ------------------------------------------------------------------------------",
    .line "#region Designer generated code", .line "#pragma warning disable",
    .line ("namespace " ++ namespaceName), .openBlock, .line "using TechTalk.SpecFlow;"] ++
    imports.map (fun name => LayoutStep.line ("using " ++ name ++ ";")) ++ [LayoutStep.blank]

/-- The steps of a file after its class. -/
def afterClass : List LayoutStep :=
  [.closeBlock, .line "#pragma warning restore", .line "#endregion"]

theorem sourceSteps_split (c : TestClass) (h : Header) :
    sourceSteps c h =
      aboveFingerprint h.source ++ (fingerprintSteps h.fingerprint ++
        (belowFingerprint c.namespaceName c.imports ++ (classSteps c ++ afterClass))) := by
  obtain ⟨source, fingerprint⟩ := h
  cases source <;> cases fingerprint <;>
    simp [sourceSteps, headerLines, aboveFingerprint, headerTop, fingerprintSteps,
      belowFingerprint, afterClass]

theorem level_aboveFingerprint (source : Option String) : Level (aboveFingerprint source) := by
  cases source <;> exact fun _ => rfl

theorem level_fingerprintSteps (fingerprint : Option String) :
    Level (fingerprintSteps fingerprint) := by
  cases fingerprint <;> exact fun _ => rfl

theorem laid_fingerprintSteps (value : String) :
    laid 0 (fingerprintSteps (some value)) =
      "//      Fingerprint: ".toList ++ (value.toList ++ ['\n']) := by
  have hne : "//      Fingerprint: " ++ value ≠ "" := by simp
  show (Layout.indented 0 ("//      Fingerprint: " ++ value)).toList ++ [] = _
  rw [List.append_nil, indented_toList 0 hne, String.toList_append, List.append_assoc]
  rfl

/-- A fingerprint on one line, if there is one, up to the line below it. -/
theorem fingerprint_tells {p q : Option String} (hp : ∀ x, p = some x → '\n' ∉ x.toList)
    (hq : ∀ x, q = some x → '\n' ∉ x.toList) {r s : List Char}
    (h : laid 0 (fingerprintSteps p) ++ ((Layout.indented 0 "//").toList ++ r) =
      laid 0 (fingerprintSteps q) ++ ((Layout.indented 0 "//").toList ++ s)) : p = q ∧ r = s := by
  have hbelow : (Layout.indented 0 "//").toList = ['/', '/', '\n'] := by decide
  cases p with
  | none =>
    cases q with
    | none => exact ⟨rfl, List.append_cancel_left (List.append_cancel_left h)⟩
    | some y =>
      rw [laid_fingerprintSteps, hbelow] at h
      simp [fingerprintSteps, laid] at h
  | some x =>
    cases q with
    | none =>
      rw [laid_fingerprintSteps, hbelow] at h
      simp [fingerprintSteps, laid] at h
    | some y =>
      simp only [laid_fingerprintSteps, List.append_assoc, List.append_cancel_left_eq,
        List.singleton_append] at h
      obtain ⟨hxy, hrest⟩ := append_stop_inj '\n' (hp x rfl) (hq y rfl) h
      exact ⟨congrArg some (String.toList_inj.mp hxy), List.append_cancel_left hrest⟩

theorem laid_belowFingerprint (namespaceName : String) (f : Feature) :
    laid 0 (belowFingerprint namespaceName RemoteBrowser.requiredImports ++
        (classSteps (Generation.featureClass namespaceName f) ++ afterClass)) =
      laid 0 (belowFingerprint namespaceName RemoteBrowser.requiredImports) ++
        (laid 1 (classSteps (Generation.featureClass namespaceName f)) ++ laid 1 afterClass) := by
  have hdepth :
      depthAfter 0 (belowFingerprint namespaceName RemoteBrowser.requiredImports) = 1 := rfl
  rw [laid_append, hdepth, (level_classSteps _).laid_append]

/-- A source text tells the fingerprint in its header and what is written of its class. -/
theorem source_tells (namespaceName : String) {f g : Feature} {h k : Header}
    (hsource : h.source = k.source)
    (hh : ∀ x, h.fingerprint = some x → '\n' ∉ x.toList)
    (hk : ∀ x, k.fingerprint = some x → '\n' ∉ x.toList)
    (heq : source (Generation.featureClass namespaceName f) h =
      source (Generation.featureClass namespaceName g) k) :
    h.fingerprint = k.fingerprint ∧
      (Generation.featureClass namespaceName f).written =
        (Generation.featureClass namespaceName g).written := by
  have hlist := congrArg String.toList heq
  simp only [source, layOut_toList, sourceSteps_split, hsource,
    (level_aboveFingerprint _).laid_append, (level_fingerprintSteps _).laid_append,
    List.append_cancel_left_eq] at hlist
  obtain ⟨hfingerprint, hrest⟩ := fingerprint_tells hh hk hlist
  -- The line below the fingerprint has been taken off; it is the first of those above the class.
  have hbelow := congrArg ((Layout.indented 0 "//").toList ++ ·) hrest
  have hclass := (laid_belowFingerprint namespaceName f).symm.trans
    (hbelow.trans (laid_belowFingerprint namespaceName g))
  exact ⟨hfingerprint, (Generation.tells_class namespaceName (List.append_cancel_left hclass)).1⟩

end CSharp

/-! ### Rendering -/

/-- The fingerprint of a file stands on one line. -/
theorem newline_not_mem_fingerprint (bytes : ByteArray) :
    '\n' ∉ (Digest.fingerprint bytes).toList := by
  have hdigits : ∀ n, n < 16 → Nat.digitChar n ≠ '\n' := by decide
  intro h
  rw [Digest.fingerprint, Digest.State.hex, String.toList_ofList] at h
  obtain ⟨word, _, hword⟩ := List.mem_flatMap.mp h
  obtain ⟨i, _, hi⟩ := List.mem_map.mp hword
  exact hdigits _ (Nat.mod_lt _ (by decide)) hi

namespace GeneratedFile

/-- **Rendering loses nothing.** If two features are rendered to the same text, for the same
namespace, with headers that name the same source and have fingerprints on one line, as those
written in digits are, then the fingerprints are the same, and so are the classes, up to what the
cases were made from and the notes of the methods. -/
theorem render_tells (c₁ c₂ : Config) (f₁ f₂ : Feature) (h₁ h₂ : CSharp.Header) (t₁ t₂ : TestClass)
    (text : String) (hnamespace : c₁.namespaceName = c₂.namespaceName)
    (hsource : h₁.source = h₂.source)
    (hline₁ : ∀ x, h₁.fingerprint = some x → '\n' ∉ x.toList)
    (hline₂ : ∀ x, h₂.fingerprint = some x → '\n' ∉ x.toList)
    (hr₁ : render c₁ f₁ h₁ = .ok (t₁, text)) (hr₂ : render c₂ f₂ h₂ = .ok (t₂, text)) :
    h₁.fingerprint = h₂.fingerprint ∧ t₁.written = t₂.written := by
  obtain ⟨hclass₁, htext₁⟩ := render_ok c₁ f₁ h₁ (t₁, text) hr₁
  obtain ⟨hclass₂, htext₂⟩ := render_ok c₂ f₂ h₂ (t₂, text) hr₂
  rw [← hnamespace] at hclass₂
  obtain rfl : t₁ = _ := Generation.generate_shape _ _ _ hclass₁
  obtain rfl : t₂ = _ := Generation.generate_shape _ _ _ hclass₂
  exact CSharp.source_tells c₁.namespaceName hsource hline₁ hline₂ (htext₁.symm.trans htext₂)

/-- A feature with a description, which is not written, and a spelling of the tag for its
browser. -/
def spelledFeature (description : Option String) (tag : String) : Feature :=
  { title := "Search \"and\" find", description, tags := ["smoke"]
    scenarios :=
      [{ title := "Find a page", tags := [tag, "slow"]
         examples := some { columns := ["term"], rows := [⟨["a\\b"], ["x"], true⟩] } }] }

/-- The header of a file made from one with a single byte. -/
def byteHeader : CSharp.Header := ⟨some "search.yaml", some (Digest.fingerprint ⟨#[0]⟩)⟩

theorem render_tells_spelled :
    ∃ t text,
      render .standard (spelledFeature none "browser:chrome") byteHeader = .ok (t, text) ∧
        render .standard (spelledFeature (some "Pages") "browser:browser:chrome") byteHeader =
          .ok (t, text) ∧
        byteHeader.fingerprint = byteHeader.fingerprint ∧ t.written = t.written := by
  obtain ⟨t, ht⟩ : ∃ t, Generation.generate Config.standard.namespaceName
      (spelledFeature none "browser:chrome") = .ok t := Generation.exists_ok (by decide +kernel)
  have hsame : Generation.generate Config.standard.namespaceName
      (spelledFeature (some "Pages") "browser:browser:chrome") =
        Generation.generate Config.standard.namespaceName
          (spelledFeature none "browser:chrome") := by decide +kernel
  have hr₁ : render .standard (spelledFeature none "browser:chrome") byteHeader =
      .ok (t, CSharp.source t byteHeader) := by
    rw [render, ht]
    rfl
  have hr₂ : render .standard (spelledFeature (some "Pages") "browser:browser:chrome") byteHeader =
      .ok (t, CSharp.source t byteHeader) := by
    rw [render, hsame, ht]
    rfl
  have hline : ∀ x, byteHeader.fingerprint = some x → '\n' ∉ x.toList := by
    intro x hx
    obtain rfl := Option.some.inj hx
    exact newline_not_mem_fingerprint _
  exact ⟨t, _, hr₁, hr₂,
    render_tells .standard .standard _ _ byteHeader byteHeader t t _ rfl rfl hline hline hr₁ hr₂⟩

end GeneratedFile
end CrossBrowser
