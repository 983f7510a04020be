import CrossBrowser.Proofs.Command.Check
import CrossBrowser.Proofs.Generation.Methods

/-! Verifying the browsers that would be run on.

Verifying goes through the categories of scenarios and generates nothing. In a generated class a
browser is what a case leads with, after repeated categories have been dropped and the cases of
browsers alone have given way to those of rows. The browsers are the same all the same: each one
targeted leads a case (`exists_leads`), and no other does (`scenarioCases_leads`). -/
namespace CrossBrowser

/-- Whether a case is made for a browser, and leads with its identifier. -/
def TestCase.Leads (c : TestCase) (id : String) : Prop :=
  c.origin ≠ .row ∧ c.arguments.head? = some (.text id)

/-- Whether every case of a class that is made for a browser leads with one that is supported. -/
def TestClass.Supported (testClass : TestClass) (listing : Listing) : Prop :=
  ∀ m ∈ testClass.methods, ∀ c ∈ m.cases, c.origin ≠ .row →
    ∃ id, c.arguments.head? = some (.text id) ∧ listing.supportsId id = true

/-- Whether a category targets a browser that is not supported. -/
def Listing.refuses (listing : Listing) (category : String) : Bool :=
  targetsBrowser category && !listing.supportsId (withoutMarker category)

/-- How many categories of the scenarios of features target a browser that is not supported. One
that is repeated counts each time. -/
def Listing.refused (listing : Listing) (features : List Feature) : Nat :=
  (features.flatMap fun f => f.scenarios.flatMap (·.tags)).countP listing.refuses

/-! ### What cases lead with -/

theorem leads_browserCase (id name : String) (row : Option RowArguments) :
    (browserCase id name row).Leads id :=
  ⟨TestMethod.browserCase_origin id name row, rfl⟩

theorem mergedRows_eq_nil_iff (rows : List ExampleRow) : mergedRows rows = [] ↔ rows = [] := by
  cases rows with
  | nil => simp [mergedRows, distinct]
  | cons r rest => simp [mergedRows, distinct]

namespace Generation

/-- A case of a scenario is that of a row alone, or leads with a browser that is targeted. -/
theorem scenarioCases_leads (s : Scenario) (c : TestCase) (hc : c ∈ scenarioCases s) :
    c.origin = .row ∨ ∃ id ∈ s.browsers, c.Leads id := by
  rw [scenarioCases_eq] at hc
  split at hc
  · obtain ⟨r, _, rfl⟩ := List.mem_map.mp hc
    exact .inl rfl
  · split at hc
    · obtain ⟨id, hid, rfl⟩ := List.mem_map.mp hc
      exact .inr ⟨id, hid, leads_browserCase id _ _⟩
    · obtain ⟨r, _, hblock⟩ := List.mem_flatMap.mp hc
      obtain ⟨id, hid, rfl⟩ := List.mem_map.mp hblock
      exact .inr ⟨id, hid, leads_browserCase id _ _⟩

/-- Every browser that a scenario targets leads one of its cases. -/
theorem exists_leads (s : Scenario) (id : String) (hid : id ∈ s.browsers) :
    ∃ c ∈ scenarioCases s, c.Leads id := by
  rw [scenarioCases_eq, if_neg (List.ne_nil_of_mem hid)]
  split
  · exact ⟨_, List.mem_map_of_mem hid, leads_browserCase id _ _⟩
  · next hrows =>
    -- Merging leaves a row, which has a case on every browser.
    obtain ⟨r, hr⟩ := List.exists_mem_of_ne_nil _ (mt (mergedRows_eq_nil_iff s.rows).mp hrows)
    have hblock := List.mem_map_of_mem (f := browserRowCase s.title r.contribution) hid
    exact ⟨_, List.mem_flatMap.mpr ⟨r, hr, hblock⟩, leads_browserCase id _ _⟩

/-- The browsers of a class are those that the scenarios of its feature target. -/
theorem supported_iff (listing : Listing) (namespaceName : String) (f : Feature)
    (testClass : TestClass) (h : generate namespaceName f = .ok testClass) :
    testClass.Supported listing ↔
      ∀ s ∈ f.scenarios, ∀ id ∈ s.browsers, listing.supportsId id = true := by
  obtain ⟨_, hmethods⟩ := generate_ok namespaceName f testClass h
  rw [TestClass.Supported, hmethods, List.forall_mem_map]
  refine forall_congr' fun s => forall_congr' fun _ => ?_
  rw [scenarioMethod_cases]
  constructor
  · intro hall id hid
    obtain ⟨c, hc, horigin, hhead⟩ := exists_leads s id hid
    obtain ⟨id', hhead', hsupported⟩ := hall c hc horigin
    obtain rfl : id = id' := by simpa using hhead.symm.trans hhead'
    exact hsupported
  · intro hall c hc horigin
    obtain ⟨id, hid, hleads⟩ := (scenarioCases_leads s c hc).resolve_left horigin
    exact ⟨id, hleads.2, hall id hid⟩

end Generation

/-! ### Categories that are refused -/

theorem mem_browsers_iff (s : Scenario) (id : String) :
    id ∈ s.browsers ↔ ∃ tag ∈ s.tags, targetsBrowser tag = true ∧ withoutMarker tag = id := by
  simp [Scenario.browsers, mem_distinct, classify, and_assoc]

namespace Listing
variable (listing : Listing)

theorem refused_cons (f : Feature) (rest : List Feature) :
    listing.refused (f :: rest) =
      (f.scenarios.flatMap (·.tags)).countP listing.refuses + listing.refused rest := by
  rw [refused, List.flatMap_cons, List.countP_append, refused]

theorem refused_eq_zero_iff (features : List Feature) :
    listing.refused features = 0 ↔
      ∀ f ∈ features, ∀ s ∈ f.scenarios, ∀ id ∈ s.browsers, listing.supportsId id = true := by
  have hscenario : ∀ s : Scenario, (∀ tag ∈ s.tags, ¬listing.refuses tag = true) ↔
      ∀ id ∈ s.browsers, listing.supportsId id = true := by
    intro s
    simp only [mem_browsers_iff, refuses]
    constructor
    · rintro hall _ ⟨tag, htag, htargets, rfl⟩
      simpa [htargets] using hall tag htag
    · intro hall tag htag hrefuses
      simp only [Bool.and_eq_true, Bool.not_eq_true'] at hrefuses
      rw [hall _ ⟨tag, htag, hrefuses.1, rfl⟩] at hrefuses
      exact absurd hrefuses.2 (by decide)
  simp only [refused, List.countP_eq_zero, List.mem_flatMap]
  constructor
  · intro hall f hf s hs
    exact (hscenario s).mp fun tag htag => hall tag ⟨f, hf, s, hs, htag⟩
  · rintro hall tag ⟨f, hf, s, hs, htag⟩
    exact (hscenario s).mpr (hall f hf s hs) tag htag

end Listing

namespace Program

/-- As many browsers are reported as there are categories that are refused. -/
theorem length_unsupportedIn (listing : Listing) (f : Feature) :
    (unsupportedIn listing f).length = (f.scenarios.flatMap (·.tags)).countP listing.refuses := by
  rw [unsupportedIn, List.length_flatMap, List.countP_flatMap]
  congr 1
  refine List.map_congr_left fun s _ => ?_
  rw [List.length_map, ← List.countP_eq_length_filter]
  show ((s.tags.filter targetsBrowser).map withoutMarker).countP _ = _
  rw [List.countP_map, List.countP_filter]
  refine List.countP_congr fun tag _ => ?_
  simp [Listing.refuses, and_comm]

/-! ### The command -/

/-- The classes of features run on supported browsers exactly if no category is refused. -/
theorem all_supported_iff (listing : Listing) (namespaceName : String) (features : List Feature)
    (classes : List TestClass)
    (h : List.Forall₂ (fun f testClass => Generation.generate namespaceName f = .ok testClass)
      features classes) :
    (∀ testClass ∈ classes, testClass.Supported listing) ↔ listing.refused features = 0 := by
  rw [Listing.refused_eq_zero_iff]
  induction h with
  | nil => simp
  | cons hf _ ih =>
    rw [List.forall_mem_cons, List.forall_mem_cons]
    exact and_congr (Generation.supported_iff listing namespaceName _ _ hf) ih

/-- Verifying files that all hold features fails with the number of categories that are refused, if
there are any. -/
theorem verifyFiles_error? (t : FileTree) (listing : Listing) (count : Nat) (sources : List Path)
    (features : List Feature)
    (hload : List.Forall₂ (fun source f => Feature.load t source = .ok f) sources features) :
    (verifyFiles t listing count sources).error? =
      if count + listing.refused features = 0 then none
      else some (.unsupported (count + listing.refused features)) := by
  induction hload generalizing count with
  | nil =>
    rw [verifyFiles]
    show (if count = 0 then _ else _ : Report).error? = if count = 0 then none else _
    split <;> rfl
  | @cons source f sources features hf _ ih =>
    rw [verifyFiles, hf]
    show (verifyFiles t listing (count + (unsupportedIn listing f).length) sources).error? = _
    rw [ih, length_unsupportedIn, Listing.refused_cons, Nat.add_assoc]

/-- **Verifying is right about the generated classes.** When there is a listing, and a class is
generated for each feature found, verifying succeeds exactly if the cases of the classes that are
made for browsers all lead with one that is supported. Otherwise it fails, and tells how many
categories of scenarios target a browser that is not. -/
theorem run_verify (t : FileTree) (c : Config) (verbose : Bool) (path file : Path)
    (option : Option Path) (listing : Listing) (sources : List Path) (features : List Feature)
    (classes : List TestClass) (hfile : (option <|> c.supportedBrowsers) = some file)
    (hlisting : Listing.load t file = .ok listing)
    (hfound : Discovery.featureFiles t { c with supportedBrowsers := some file } path = .ok sources)
    (hload : sources.mapM (Feature.load t) = .ok features)
    (hgenerate : features.mapM (Generation.generate c.namespaceName) = .ok classes) :
    ((run t c verbose (.verify path option)).2.error? = none ↔
        ∀ testClass ∈ classes, testClass.Supported listing) ∧
      ((¬∀ testClass ∈ classes, testClass.Supported listing) →
        (run t c verbose (.verify path option)).2.error? =
          some (.unsupported (listing.refused features))) := by
  have herror : (run t c verbose (.verify path option)).2.error? =
      if listing.refused features = 0 then none
      else some (.unsupported (listing.refused features)) := by
    show (runVerify t c path option).error? = _
    rw [runVerify, hfile]
    simp only [Report.on, hlisting, hfound]
    rw [verifyFiles_error? t listing 0 sources features ((mapM_eq_ok_iff _ _ _).mp hload),
      Nat.zero_add]
  rw [herror, all_supported_iff listing c.namespaceName features classes
    ((mapM_eq_ok_iff _ _ _).mp hgenerate)]
  constructor
  · split <;> simp [*]
  · intro hrefused
    rw [if_neg hrefused]

end Program

/-! ### A browser that is not supported -/

/-- A feature that targets a browser twice, and has a row. -/
def targetingFeature : Feature :=
  { title := "A"
    description := none
    tags := []
    scenarios :=
      [{ title := "S"
         tags := ["browser:opera", "browser:opera"]
         examples := some { columns := [], rows := [⟨["a"], [], false⟩] } }] }

/-- That feature as a text. -/
def targetingText : String :=
  "title: A\nscenarios:\n- title: S\n  tags: [browser:opera, browser:opera]\n" ++
    "  examples:\n    rows: [[a]]\n"

/-- A tree with that feature, and a listing of another browser. -/
def targetingTree : FileTree :=
  ((FileTree.empty ["w"]).put ["w", "browsers.json"]
    (.file (Text.encodeUtf8 "[\x7b\"browser\":\"Chrome\"\x7d]"))).put
    ["w", "a.yaml"] (.file (Text.encodeUtf8 targetingText))

theorem featureFiles_targeting :
    Discovery.featureFiles targetingTree
      { Config.standard with supportedBrowsers := some ⟨"browsers.json"⟩ } ⟨"."⟩ =
      .ok [⟨"./a.yaml"⟩] :=
  featureFiles_of_sorted _ _ _ [⟨"./a.yaml"⟩, ⟨"./browsers.json"⟩] _ (by decide +kernel)
    (by decide +kernel) (by decide +kernel) (by decide +kernel)

/-- Verifying counts a browser that is not supported as often as the categories target it, although
the class has one case on it. -/
theorem run_verify_targeting :
    (Program.run targetingTree .standard false (.verify ⟨"."⟩ (some ⟨"browsers.json"⟩))).2.error? =
      some (.unsupported 2) := by
  have hlisting : Listing.load targetingTree ⟨"browsers.json"⟩ =
      .ok [⟨some "Chrome", none, none, none, none⟩] := by decide +kernel
  have hload : [(⟨"./a.yaml"⟩ : Path)].mapM (Feature.load targetingTree) =
      .ok [targetingFeature] := by decide +kernel
  obtain ⟨classes, hgenerate⟩ : ∃ classes, [targetingFeature].mapM
      (Generation.generate Config.standard.namespaceName) = .ok classes :=
    Generation.exists_ok (by decide +kernel)
  have hverify := Program.run_verify targetingTree .standard false ⟨"."⟩ ⟨"browsers.json"⟩
    (some ⟨"browsers.json"⟩) _ _ _ classes rfl hlisting featureFiles_targeting hload hgenerate
  have hrefused : Listing.refused [⟨some "Chrome", none, none, none, none⟩]
      [targetingFeature] = 2 := by decide +kernel
  rw [hrefused] at hverify
  refine hverify.2 fun hall => ?_
  have hclasses := (mapM_eq_ok_iff _ _ _).mp hgenerate
  have hnone := (Program.all_supported_iff _ _ _ classes hclasses).mp hall
  rw [hrefused] at hnone
  cases hnone

end CrossBrowser
