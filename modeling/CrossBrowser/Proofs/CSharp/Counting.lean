import CrossBrowser.CSharp.Source
import CrossBrowser.Proofs.CSharp.Lines
import CrossBrowser.Proofs.CSharp.Regular
import CrossBrowser.Proofs.CSharp.Source
import Mathlib.Algebra.Ring.Nat

/-! How many lines of a source text belong to test cases, and how many declare methods.

Both kinds of lines are known by what they begin with. All other lines begin in one of a few ways,
and differ from those two before any text of the feature comes in (`Front`). The text of the feature
itself begins no line: it stands in literals and names, and neither has a line feed. So the lines
can be counted part by part (`Writes`). -/
namespace CrossBrowser.CSharp
open Text

/-! ### Literals and lists -/

theorem oneLine_stringLiteral (value : String) : OneLine (stringLiteral value) := by
  have hbody : '\n' ∉ value.toList.flatMap escapeChar := by
    intro h
    have hplain := (spells_ordinary value.toList).plain_of_mem (by decide) h
    exact hplain.2.2.1 rfl
  rw [OneLine, stringLiteral_toList]
  simpa using hbody

theorem oneLine_arrayLiteral (values : List String) : OneLine (arrayLiteral values) := by
  refine ((show OneLine "new string[] \x7b" by decide).append (.intercalate (by decide) ?_)).append
    (by decide)
  intro text htext
  obtain ⟨value, _, rfl⟩ := List.mem_map.mp htext
  exact oneLine_stringLiteral value

theorem oneLine_literal (l : Literal) : OneLine (literal l) := by
  cases l with
  | null => decide
  | text value => exact oneLine_stringLiteral value
  | texts values => exact oneLine_arrayLiteral values

theorem oneLine_caseArguments (c : TestCase) : ∀ text ∈ caseArguments c, OneLine text := by
  have hnamed : ∀ (name : String) (value : Option String), OneLine name →
      ∀ text ∈ namedArgument name value, OneLine text := by
    intro name value hname text htext
    obtain ⟨v, _, rfl⟩ := Option.map_eq_some_iff.mp (Option.mem_toList.mp htext)
    exact (hname.append (by decide)).append (oneLine_stringLiteral v)
  rw [caseArguments, List.forall_mem_append, List.forall_mem_append, List.forall_mem_append]
  refine ⟨⟨⟨fun text htext => ?_, hnamed _ _ (by decide)⟩, hnamed _ _ (by decide)⟩,
    hnamed _ _ (by decide)⟩
  obtain ⟨l, _, rfl⟩ := List.mem_map.mp htext
  exact oneLine_literal l

/-- Whether the parts of a parameter stay on one line. -/
structure OneLineParameter (p : Parameter) : Prop where
  type : OneLine p.type
  name : OneLine p.name

theorem oneLine_parameterList {ps : List Parameter} (h : ∀ p ∈ ps, OneLineParameter p) :
    OneLine (parameterList ps) := by
  refine .intercalate (by decide) fun text htext => ?_
  obtain ⟨p, hp, rfl⟩ := List.mem_map.mp htext
  refine (((h p hp).type.append (by decide)).append (h p hp).name).append ?_
  cases p.default with
  | none => decide
  | some value => exact (show OneLine " = " by decide).append (oneLine_literal value)

/-! ### Lines that are not counted -/

/-- What the line of a test case begins with. -/
def caseOpening : String := "[NUnit.Framework.TestCaseAttribute("

/-- What the line that declares a method begins with. -/
def methodOpening : String := "public virtual void "

/-- A line that neither belongs to a test case nor declares a method. -/
structure Uncounted (line : String) : Prop where
  oneLine : OneLine line
  noCase : begins caseOpening line = false
  noMethod : begins methodOpening line = false

/-- A line of code that is not counted, and is read back as it is written. -/
structure CodeLine (line : String) : Prop extends Uncounted line where
  noReturn : '\r' ∉ line.toList

/-- A text such that no line that begins with it is counted. -/
structure Front (front : String) : Prop where
  oneLine : OneLine front
  noCase : departs caseOpening.toList front.toList = true
  noMethod : departs methodOpening.toList front.toList = true

theorem Front.uncounted {front rest : String} (h : Front front) (hrest : OneLine rest) :
    Uncounted (front ++ rest) where
  oneLine := h.oneLine.append hrest
  noCase := not_begins_of_departs h.noCase rest
  noMethod := not_begins_of_departs h.noMethod rest

-- For texts that are known the two are decided on their characters. To decide them on the texts
-- would mean taking each text apart time and again.
section Known
variable {cs ds text : List Char} (hcs : caseOpening = String.ofList cs)
  (hds : methodOpening = String.ofList ds)
include hcs hds

theorem front_ofList
    (h : (!text.contains '\n' && departs cs text && departs ds text) = true) :
    Front (String.ofList text) := by
  simp only [Bool.and_eq_true, Bool.not_eq_true', List.contains_eq_mem,
    decide_eq_false_iff_not] at h
  obtain ⟨⟨hline, hcase⟩, hmethod⟩ := h
  refine ⟨oneLine_ofList hline, ?_, ?_⟩
  · rwa [hcs, String.toList_ofList, String.toList_ofList]
  · rwa [hds, String.toList_ofList, String.toList_ofList]

theorem codeLine_ofList
    (h : (!text.contains '\n' && !text.contains '\r' && !cs.isPrefixOf (unindented text) &&
      !ds.isPrefixOf (unindented text)) = true) :
    CodeLine (String.ofList text) := by
  simp only [Bool.and_eq_true, Bool.not_eq_true', List.contains_eq_mem,
    decide_eq_false_iff_not] at h
  obtain ⟨⟨⟨hline, hreturn⟩, hcase⟩, hmethod⟩ := h
  refine ⟨⟨oneLine_ofList hline, ?_, ?_⟩, ?_⟩
  · rwa [begins, hcs, String.toList_ofList, String.toList_ofList]
  · rwa [begins, hds, String.toList_ofList, String.toList_ofList]
  · rwa [String.toList_ofList]

theorem uncounted_cons
    (h : (!text.contains '\n' && !text.contains '\r' && !cs.isPrefixOf (unindented text) &&
      !ds.isPrefixOf (unindented text)) = true)
    {lines : List String} (hlines : ∀ line ∈ lines, Uncounted line) :
    ∀ line ∈ String.ofList text :: lines, Uncounted line :=
  List.forall_mem_cons.mpr ⟨(codeLine_ofList hcs hds h).toUncounted, hlines⟩

end Known

/-! ### Counting part by part -/

/-- How many lines of test cases steps write, and how many that declare methods. All that they write
stays on the line it is written on. -/
structure Writes (steps : List LayoutStep) (cases methods : Nat) : Prop where
  oneLine : ∀ line ∈ linesOf steps, OneLine line
  cases : (linesOf steps).countP (begins caseOpening) = cases
  methods : (linesOf steps).countP (begins methodOpening) = methods

namespace Writes
variable {xs ys : List LayoutStep} {i j k l : Nat}

theorem append (hx : Writes xs i j) (hy : Writes ys k l) : Writes (xs ++ ys) (i + k) (j + l) where
  oneLine := by
    rw [linesOf_append, List.forall_mem_append]
    exact ⟨hx.oneLine, hy.oneLine⟩
  cases := by rw [linesOf_append, List.countP_append, hx.cases, hy.cases]
  methods := by rw [linesOf_append, List.countP_append, hx.methods, hy.methods]

theorem flatMap {α : Type} {as : List α} {f : α → List LayoutStep} {cases methods : α → Nat}
    (h : ∀ a ∈ as, Writes (f a) (cases a) (methods a)) :
    Writes (as.flatMap f) (as.map cases).sum (as.map methods).sum := by
  induction as with
  | nil => exact ⟨by simp [linesOf], rfl, rfl⟩
  | cons a rest ih =>
    have hfirst := h a List.mem_cons_self
    exact hfirst.append (ih fun b hb => h b (List.mem_cons_of_mem _ hb))

theorem of_uncounted (h : ∀ line ∈ linesOf xs, Uncounted line) : Writes xs 0 0 where
  oneLine line hline := (h line hline).oneLine
  cases := List.countP_eq_zero.mpr fun line hline => by simp [(h line hline).noCase]
  methods := List.countP_eq_zero.mpr fun line hline => by simp [(h line hline).noMethod]

theorem line {text : String} (h : Uncounted text) : Writes [.line text] 0 0 :=
  of_uncounted fun _ hline => List.mem_singleton.mp hline ▸ h

theorem lines {α : Type} {as : List α} {f : α → String} (h : ∀ a ∈ as, Uncounted (f a)) :
    Writes (as.map fun a => .line (f a)) 0 0 := by
  refine of_uncounted ?_
  rw [linesOf_lines, List.forall_mem_map]
  exact h

theorem code {ls : List String} (h : ∀ l ∈ ls, CodeLine l) :
    Writes [.lines ("\n".intercalate ls)] 0 0 := by
  refine of_uncounted fun line hline => (h line ?_).toUncounted
  rw [linesOf, List.flatMap_singleton] at hline
  exact mem_of_mem_lines (fun l hl => ⟨(h l hl).oneLine, (h l hl).noReturn⟩) hline

theorem of_line {text : String} (h : OneLine text) :
    Writes [.line text] (begins caseOpening text).toNat (begins methodOpening text).toNat where
  oneLine _ hline := List.mem_singleton.mp hline ▸ h
  cases := List.countP_singleton.trans (by cases begins caseOpening text <;> rfl)
  methods := List.countP_singleton.trans (by cases begins methodOpening text <;> rfl)

theorem case {rest : String} (h : OneLine rest) : Writes [.line (caseOpening ++ rest)] 1 0 := by
  have hline := of_line ((show OneLine caseOpening from oneLine_ofList (by decide)).append h)
  rwa [begins_append (by decide +kernel) (by decide) rest,
    not_begins_of_departs (by decide +kernel) rest] at hline

theorem method {rest : String} (h : OneLine rest) :
    Writes [.line (methodOpening ++ rest)] 0 1 := by
  have hline := of_line ((show OneLine methodOpening from oneLine_ofList (by decide)).append h)
  rwa [begins_append (by decide +kernel) (by decide) rest,
    not_begins_of_departs (by decide +kernel) rest] at hline

theorem block (h : Writes xs i j) : Writes (.openBlock :: (xs ++ [.closeBlock])) i j := by
  have hopen : Writes [.openBlock] 0 0 :=
    of_uncounted (uncounted_cons rfl rfl (by decide) (List.forall_mem_nil _))
  have hclose : Writes [.closeBlock] 0 0 :=
    of_uncounted (uncounted_cons rfl rfl (by decide) (List.forall_mem_nil _))
  have hblock := (hopen.append h).append hclose
  rwa [Nat.zero_add, Nat.zero_add] at hblock

end Writes

/-! ### Attributes -/

theorem attributeText_eq (name arguments : String) :
    attributeText name arguments =
      ("[" ++ attributeNamespace ++ "." ++ name ++ "(") ++ (arguments ++ ")]") := by
  rw [attributeText, String.append_assoc]

theorem uncounted_attributeText {name arguments : String}
    (h : Front ("[" ++ attributeNamespace ++ "." ++ name ++ "(")) (harguments : OneLine arguments) :
    Uncounted (attributeText name arguments) := by
  rw [attributeText_eq]
  exact h.uncounted (harguments.append (by decide))

theorem uncounted_marker (marker : Marker) : Uncounted (markerAttribute marker) := by
  refine uncounted_attributeText ?_ (by decide)
  cases marker with
  | testFixture =>
    have h : Front "[NUnit.Framework.TestFixtureAttribute(" := front_ofList rfl rfl (by decide)
    exact h
  | testFixtureSetUp =>
    have h : Front "[NUnit.Framework.TestFixtureSetUpAttribute(" := front_ofList rfl rfl (by decide)
    exact h
  | test =>
    have h : Front "[NUnit.Framework.TestAttribute(" := front_ofList rfl rfl (by decide)
    exact h
  | tearDown =>
    have h : Front "[NUnit.Framework.TearDownAttribute(" := front_ofList rfl rfl (by decide)
    exact h

theorem writes_descriptionSteps (markers : List Marker) (description : Option String)
    (categories : List String) : Writes (descriptionSteps markers description categories) 0 0 := by
  have hdescription : ∀ text, Uncounted (descriptionAttribute text) := by
    intro text
    have h : Front "[NUnit.Framework.DescriptionAttribute(" := front_ofList rfl rfl (by decide)
    exact uncounted_attributeText h (oneLine_stringLiteral text)
  have hcategory : ∀ text, Uncounted (categoryAttribute text) := by
    intro text
    have h : Front "[NUnit.Framework.CategoryAttribute(" := front_ofList rfl rfl (by decide)
    exact uncounted_attributeText h (oneLine_stringLiteral text)
  have hdescribed : Writes (description.map (.line <| descriptionAttribute ·)).toList 0 0 := by
    cases description with
    | none => exact .of_uncounted fun _ hline => absurd hline List.not_mem_nil
    | some text => exact .line (hdescription text)
  exact ((Writes.lines fun marker _ => uncounted_marker marker).append hdescribed).append
    (.lines fun text _ => hcategory text)

theorem writes_caseAttribute (c : TestCase) : Writes [.line (caseAttribute c)] 1 0 := by
  rw [caseAttribute, attributeText_eq]
  exact .case ((OneLine.intercalate (by decide) (oneLine_caseArguments c)).append (by decide))

theorem writes_cases (cases : List TestCase) :
    Writes (cases.map (.line <| caseAttribute ·)) cases.length 0 := by
  have hcases := Writes.flatMap fun c (_ : c ∈ cases) => writes_caseAttribute c
  rw [List.map_eq_flatMap]
  simpa using hcases

/-! ### Methods -/

/-- Whether what a statement names stays on one line. -/
def OneLineStatement : Statement → Prop
  | .assignBrowser parameter => OneLine parameter
  | _ => True

/-- Whether the names in a method stay on one line. -/
structure OneLineMethod (name : String) (ps : List Parameter) (xs : List Statement) : Prop where
  name : OneLine name
  parameters : ∀ p ∈ ps, OneLineParameter p
  statements : ∀ x ∈ xs, OneLineStatement x

theorem writes_statementSteps {x : Statement} (h : OneLineStatement x) :
    Writes (statementSteps x) 0 0 := by
  cases x with
  | resetBrowser | registerHost | initializeScenario =>
    exact .line (codeLine_ofList rfl rfl (by decide)).toUncounted
  | configureRemote | createHost | disposeHost =>
    refine .code ?_
    repeat refine List.forall_mem_cons.mpr ⟨codeLine_ofList rfl rfl (by decide), ?_⟩
    exact List.forall_mem_nil _
  | assignBrowser parameter =>
    refine .line ?_
    rw [String.append_assoc]
    exact (front_ofList rfl rfl (by decide)).uncounted (OneLine.append h (by decide))
  | createScenarioInfo title tags =>
    have htags : OneLine (scenarioTags tags) := by
      unfold scenarioTags
      split
      · decide
      · exact oneLine_arrayLiteral tags
    have hrest := ((oneLine_stringLiteral title).append (show OneLine ", " by decide)).append
      (htags.append (show OneLine ");" by decide))
    refine .line ?_
    simp only [String.append_assoc] at hrest ⊢
    exact (front_ofList rfl rfl (by decide)).uncounted hrest

theorem writes_methodSteps {name : String} {ps : List Parameter} {xs : List Statement}
    (h : OneLineMethod name ps xs) : Writes (methodSteps name ps xs) 0 1 := by
  have hrest : OneLine (name ++ ("(" ++ (parameterList ps ++ ")"))) :=
    h.name.append (OneLine.append (by decide)
      ((oneLine_parameterList h.parameters).append (by decide)))
  have hbody := Writes.flatMap fun x hx => writes_statementSteps (h.statements x hx)
  have hmethod := (Writes.method hrest).append hbody.block
  simp only [List.map_const', List.sum_replicate_nat, Nat.mul_zero, Nat.add_zero] at hmethod
  rw [methodSteps_eq, String.append_assoc, String.append_assoc, String.append_assoc]
  exact hmethod

theorem writes_memberSteps {m : Member} (h : OneLineMethod m.name m.parameters m.statements) :
    Writes (memberSteps m) 0 1 :=
  (Writes.lines fun marker _ => uncounted_marker marker).append (writes_methodSteps h)

theorem writes_testMethodSteps {m : TestMethod}
    (h : OneLineMethod m.identifier m.parameters m.statements) :
    Writes (testMethodSteps m) m.cases.length 1 := by
  have hmethod := ((writes_descriptionSteps m.markers m.description m.categories).append
    (writes_cases m.cases)).append (writes_methodSteps h)
  simp only [Nat.zero_add, Nat.add_zero] at hmethod
  exact hmethod

/-! ### Classes -/

/-- Whether the names in a class stay on one line. -/
structure OneLineClass (c : TestClass) : Prop where
  namespaceName : OneLine c.namespaceName
  name : OneLine c.name
  imports : ∀ name ∈ c.imports, OneLine name
  fields : ∀ f ∈ c.fields, OneLine f.type ∧ OneLine f.name
  members : ∀ m ∈ memberList c, OneLineMethod m.name m.parameters m.statements
  methods : ∀ m ∈ c.methods, OneLineMethod m.identifier m.parameters m.statements

/-- The number of test cases in a class. -/
def caseCount (c : TestClass) : Nat := (c.methods.map (·.cases.length)).sum

theorem writes_blank : Writes [.blank] 0 0 :=
  .of_uncounted (uncounted_cons rfl rfl (by decide) (List.forall_mem_nil _))

theorem Writes.blank {xs : List LayoutStep} {i j : Nat} (h : Writes xs i j) :
    Writes (.blank :: xs) i j := by
  have hblank := writes_blank.append h
  rwa [Nat.zero_add, Nat.zero_add] at hblank

theorem writes_blockSteps {c : TestClass} (h : OneLineClass c) :
    Writes (blockSteps c) (caseCount c) ((memberList c).length + c.methods.length) := by
  have hfields : Writes
      (c.fields.map fun f => .line ("private " ++ f.type ++ " " ++ f.name ++ ";")) 0 0 := by
    refine .lines fun f hf => ?_
    obtain ⟨htype, hname⟩ := h.fields f hf
    have hrest := htype.append (OneLine.append (show OneLine " " by decide)
      (hname.append (show OneLine ";" by decide)))
    simp only [String.append_assoc]
    exact (front_ofList rfl rfl (by decide)).uncounted hrest
  have hmembers := Writes.flatMap fun m hm => (writes_memberSteps (h.members m hm)).blank
  have hmethods := Writes.flatMap fun m hm => (writes_testMethodSteps (h.methods m hm)).blank
  have hblock := (hfields.append hmembers).append hmethods
  simp only [List.map_const', List.sum_replicate_nat, Nat.mul_zero, Nat.mul_one, Nat.zero_add]
    at hblock
  exact hblock

theorem writes_classSteps {c : TestClass} (h : OneLineClass c) :
    Writes (classSteps c) (caseCount c) ((memberList c).length + c.methods.length) := by
  have hdeclaration : Uncounted ("public partial class " ++ c.name) :=
    (front_ofList rfl rfl (by decide)).uncounted h.name
  have hclass := (writes_descriptionSteps c.markers c.description c.categories).append
    ((Writes.line hdeclaration).append (writes_blockSteps h).block)
  rw [classSteps_eq]
  simp only [Nat.zero_add] at hclass
  exact hclass

/-! ### Files -/

theorem writes_header {h : Header} (hsource : ∀ x, h.source = some x → OneLine x)
    (hfingerprint : ∀ x, h.fingerprint = some x → OneLine x) :
    Writes ((headerLines h).map .line) 0 0 := by
  have hnamed : ∀ (front : String) (value : Option String), Front front →
      (∀ x, value = some x → OneLine x) →
      ∀ line ∈ (value.map (front ++ ·)).toList, Uncounted line := by
    intro front value hfront hvalue line hline
    obtain ⟨x, hx, rfl⟩ := Option.map_eq_some_iff.mp (Option.mem_toList.mp hline)
    exact hfront.uncounted (hvalue x hx)
  refine .lines ?_
  rw [headerLines, List.forall_mem_append, List.forall_mem_append, List.forall_mem_append]
  refine ⟨⟨⟨?_, hnamed _ _ (front_ofList rfl rfl (by decide)) hsource⟩,
    hnamed _ _ (front_ofList rfl rfl (by decide)) hfingerprint⟩, ?_⟩
  · iterate 2 refine uncounted_cons rfl rfl (by decide) ?_
    rw [List.forall_mem_singleton, String.append_assoc]
    exact (front_ofList rfl rfl (by decide)).uncounted (by decide)
  · repeat refine uncounted_cons rfl rfl (by decide) ?_
    exact List.forall_mem_nil _

theorem writes_sourceSteps {c : TestClass} {h : Header} (hc : OneLineClass c)
    (hsource : ∀ x, h.source = some x → OneLine x)
    (hfingerprint : ∀ x, h.fingerprint = some x → OneLine x) :
    Writes (sourceSteps c h) (caseCount c) ((memberList c).length + c.methods.length) := by
  have habove : Writes
      [.line "#region Designer generated code", .line "#pragma warning disable",
        .line ("namespace " ++ c.namespaceName), .openBlock, .line "using TechTalk.SpecFlow;"]
      0 0 := by
    refine .of_uncounted ?_
    iterate 2 refine uncounted_cons rfl rfl (by decide) ?_
    refine List.forall_mem_cons.mpr
      ⟨(front_ofList rfl rfl (by decide)).uncounted hc.namespaceName, ?_⟩
    iterate 2 refine uncounted_cons rfl rfl (by decide) ?_
    exact List.forall_mem_nil _
  have himports : Writes (c.imports.map fun name => .line ("using " ++ name ++ ";")) 0 0 := by
    refine .lines fun name hname => ?_
    rw [String.append_assoc]
    exact (front_ofList rfl rfl (by decide)).uncounted ((hc.imports name hname).append (by decide))
  have hbelow : Writes [.closeBlock, .line "#pragma warning restore", .line "#endregion"] 0 0 := by
    refine .of_uncounted ?_
    repeat refine uncounted_cons rfl rfl (by decide) ?_
    exact List.forall_mem_nil _
  have hsteps := (((((writes_header hsource hfingerprint).append habove).append himports).append
    writes_blank).append (writes_classSteps hc)).append hbelow
  simp only [Nat.zero_add, Nat.add_zero] at hsteps
  exact hsteps

/-- The lines of test cases and those that declare methods, in the source text of a class. -/
theorem linesBeginning_source {c : TestClass} {h : Header} (hc : OneLineClass c)
    (hsource : ∀ x, h.source = some x → OneLine x)
    (hfingerprint : ∀ x, h.fingerprint = some x → OneLine x) :
    linesBeginning caseOpening (source c h) = caseCount c ∧
      linesBeginning methodOpening (source c h) = (memberList c).length + c.methods.length := by
  have hsteps := writes_sourceSteps hc hsource hfingerprint
  rw [source, linesBeginning_layOut (by decide) _ hsteps.oneLine,
    linesBeginning_layOut (by decide) _ hsteps.oneLine]
  exact ⟨hsteps.cases, hsteps.methods⟩

end CrossBrowser.CSharp
