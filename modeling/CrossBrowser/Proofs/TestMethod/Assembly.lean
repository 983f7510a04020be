import CrossBrowser.Proofs.TestMethod.Run

/-! Where a method under construction copies its browser.

A method is begun, takes in categories and rows, and gets statements and parameters of its scenario,
in any order and any number of times. Two of these steps write in front of what is there: beginning
a method puts the clearing of the current browser first, and categories that target a browser put
the copying of the browser first and drop what cleared or copied it before. `Assembled` says what is
in front at any time; `assemble_browser` says that the browser is copied if and only if it is a
parameter, and that nothing but the clearing comes before. -/
namespace CrossBrowser
open RemoteBrowser

/-- What can be done to a method while it is assembled. The statements and parameters that are added
are not those for the browser. -/
inductive AssemblyStep where
  /-- Begins the method, given the title of its scenario. -/
  | begin (title : String)
  /-- Adds or removes cases, or takes in a row or categories. -/
  | edit (step : MethodStep)
  | addStatement (s : Statement) (h : setsBrowser s = false)
  | addParameter (p : Parameter) (h : p.name ≠ browserParameter)

namespace AssemblyStep

/-- Whether the step takes in a category that targets a browser. -/
def targets : AssemblyStep → Bool
  | .edit (.categories categories) => categories.any targetsBrowser
  | _ => false

/-- The statement that the step adds, if it adds one. -/
def statement? : AssemblyStep → Option Statement
  | .addStatement s _ => some s
  | _ => none

/-- The parameter that the step adds, if it adds one. -/
def parameter? : AssemblyStep → Option Parameter
  | .addParameter p _ => some p
  | _ => none

end AssemblyStep

namespace TestMethod

def assembled (m : TestMethod) : AssemblyStep → TestMethod
  | .begin title => beginMethod m title
  | .edit step => m.next step
  | .addStatement s _ => { m with statements := m.statements ++ [s] }
  | .addParameter p _ => { m with parameters := m.parameters ++ [p] }

def assemble (m : TestMethod) : List AssemblyStep → TestMethod
  | [] => m
  | step :: rest => assemble (m.assembled step) rest

/-! ### What leaves the statements and parameters alone -/

/-- Two methods of one identifier that do the same with the same parameters. -/
structure SameBody (m m' : TestMethod) : Prop where
  identifier : m'.identifier = m.identifier
  statements : m'.statements = m.statements
  parameters : m'.parameters = m.parameters

theorem SameBody.foldl {α : Type} (f : TestMethod → α → TestMethod)
    (hf : ∀ m x, SameBody m (f m x)) (xs : List α) (m : TestMethod) :
    SameBody m (xs.foldl f m) := by
  induction xs generalizing m with
  | nil => exact ⟨rfl, rfl, rfl⟩
  | cons x rest ih =>
    have hrest := ih (f m x)
    have hstep := hf m x
    exact ⟨hrest.identifier.trans hstep.identifier, hrest.statements.trans hstep.statements,
      hrest.parameters.trans hstep.parameters⟩

theorem sameBody_addBrowser (m : TestMethod) (id : String) (name : Option String)
    (row : Option RowArguments) : SameBody m (m.addBrowser id name row) :=
  ⟨rfl, rfl, rfl⟩

theorem sameBody_fanOut (m : TestMethod) (row : RowArguments) : SameBody m (m.fanOut row) := by
  have h := SameBody.foldl _ (fun m' id => sameBody_addBrowser m' id
    (some (rowCaseName m.title (browserLabel id) row.cells)) (some row))
    m.metadata.browsers (m.removeCases .browser)
  exact ⟨h.identifier, h.statements, h.parameters⟩

/-- Beginning a method puts the clearing of the browser first, unless it is there. -/
theorem beginMethod_body (m : TestMethod) (title : String) :
    ∃ m', SameBody m m' ∧
      beginMethod m title =
        if .resetBrowser ∈ m'.statements then m'
        else { m' with statements := .resetBrowser :: m'.statements } := by
  refine ⟨{ m.addMarker .test with description := some title }, ?_, rfl⟩
  unfold addMarker
  split <;> exact ⟨rfl, rfl, rfl⟩

/-- Categories that target no browser leave the body alone, like every other edit; those that do
make the browser a parameter and copy it. -/
theorem next_body (m : TestMethod) (step : MethodStep) :
    ∃ m', SameBody m m' ∧
      m.next step =
        if (AssemblyStep.edit step).targets then withBrowserAssigned (withBrowserParameter m')
        else m' := by
  cases step with
  | push c => exact ⟨m.pushCase c, ⟨rfl, rfl, rfl⟩, rfl⟩
  | remove origin => exact ⟨m.removeCases origin, ⟨rfl, rfl, rfl⟩, rfl⟩
  | addBrowser id name row => exact ⟨_, sameBody_addBrowser m id name row, rfl⟩
  | fanOut row => exact ⟨_, sameBody_fanOut m row, rfl⟩
  | setRow cells tags ignored =>
    refine ⟨m.setRow cells tags ignored, ?_, rfl⟩
    unfold setRow
    split
    · exact ⟨rfl, rfl, rfl⟩
    · exact sameBody_fanOut m _
  | categories categories =>
    let m₁ : TestMethod := { m with categories := m.categories ++ (classify categories).plain }
    have h := SameBody.foldl _ (fun m' id => sameBody_addBrowser m' id none none)
      (classify categories).browsers m₁
    refine ⟨(classify categories).browsers.foldl (fun m id => m.addBrowser id none none) m₁,
      ⟨h.identifier, h.statements, h.parameters⟩, ?_⟩
    show (if (classify categories).hasBrowsers then _ else _) =
      if categories.any targetsBrowser then _ else _
    rw [hasBrowsers_classify]

/-! ### What stands in front -/

/-- What can stand in front of the statements of a scenario: the browser is copied if the method
targets any, and may be cleared before. -/
def fronts (targeted : Bool) : List (List Statement) :=
  if targeted then
    [[.assignBrowser browserParameter], [.resetBrowser, .assignBrowser browserParameter]]
  else [[], [.resetBrowser]]

/-- What stands in front of the parameters of a scenario: the one for the browser, if the method
targets any. -/
def browserParameters (targeted : Bool) : List Parameter :=
  if targeted then [⟨"string", browserParameter, none⟩] else []

theorem setsBrowser_of_mem_fronts (targeted : Bool) (front : List Statement)
    (h : front ∈ fronts targeted) : ∀ s ∈ front, setsBrowser s = true := by
  have hall : ∀ targeted, ∀ front ∈ fronts targeted, ∀ s ∈ front, setsBrowser s = true := by decide
  exact hall targeted front h

theorem fronts_reset (targeted : Bool) (front : List Statement) (h : front ∈ fronts targeted)
    (hreset : .resetBrowser ∉ front) : .resetBrowser :: front ∈ fronts targeted := by
  have hall : ∀ targeted, ∀ front ∈ fronts targeted, .resetBrowser ∉ front →
      .resetBrowser :: front ∈ fronts targeted := by decide
  exact hall targeted front h hreset

/-- A method in which statements and parameters have been added to what it does for its browser. -/
structure Assembled (targeted : Bool) (statements : List Statement) (parameters : List Parameter)
    (m : TestMethod) : Prop where
  statements_eq : ∃ front ∈ fronts targeted, m.statements = front ++ statements
  parameters_eq : m.parameters = browserParameters targeted ++ parameters
  statements_plain : ∀ s ∈ statements, setsBrowser s = false
  parameters_plain : ∀ p ∈ parameters, p.name ≠ browserParameter

theorem assembled_named (identifier : String) : Assembled false [] [] (named identifier) where
  statements_eq := ⟨[], by decide, rfl⟩
  parameters_eq := rfl
  statements_plain _ h := absurd h List.not_mem_nil
  parameters_plain _ h := absurd h List.not_mem_nil

variable {targeted : Bool} {statements : List Statement} {parameters : List Parameter}
  {m m' : TestMethod}

theorem Assembled.of_sameBody (h : Assembled targeted statements parameters m)
    (hm : SameBody m m') : Assembled targeted statements parameters m' where
  statements_eq := by
    rw [hm.statements]
    exact h.statements_eq
  parameters_eq := hm.parameters.trans h.parameters_eq
  statements_plain := h.statements_plain
  parameters_plain := h.parameters_plain

theorem Assembled.begin (h : Assembled targeted statements parameters m) (title : String) :
    Assembled targeted statements parameters (beginMethod m title) := by
  obtain ⟨m', hbody, hbegin⟩ := beginMethod_body m title
  have h' := h.of_sameBody hbody
  rw [hbegin]
  split
  · exact h'
  · next hmem =>
    obtain ⟨front, hfront, heq⟩ := h'.statements_eq
    refine { h' with statements_eq := ⟨.resetBrowser :: front, ?_, ?_⟩ }
    · exact fronts_reset targeted front hfront fun hr => hmem (heq ▸ List.mem_append_left _ hr)
    · show Statement.resetBrowser :: m'.statements = _
      rw [heq, List.cons_append]

/-- Whether or not the browser is a parameter before, it is the first one afterwards. -/
theorem Assembled.withParameter (h : Assembled targeted statements parameters m) :
    parametersWithBrowser m.parameters = browserParameters true ++ parameters := by
  have hfree : parameters.any (·.name == browserParameter) = false :=
    List.any_eq_false.mpr fun p hp he => h.parameters_plain p hp (eq_of_beq he)
  rw [parametersWithBrowser, h.parameters_eq, List.any_append, hfree, Bool.or_false]
  cases targeted with
  | false => rfl
  | true => rfl

/-- What set or cleared the browser before goes, and the statements of the scenario stay. -/
theorem Assembled.filter (h : Assembled targeted statements parameters m) :
    m.statements.filter (!setsBrowser ·) = statements := by
  obtain ⟨front, hfront, heq⟩ := h.statements_eq
  have hfront' : front.filter (!setsBrowser ·) = [] :=
    List.filter_eq_nil_iff.mpr fun s hs => by
      simp [setsBrowser_of_mem_fronts targeted front hfront s hs]
  have hstatements : statements.filter (!setsBrowser ·) = statements :=
    List.filter_eq_self.mpr fun s hs => by simp [h.statements_plain s hs]
  rw [heq, List.filter_append, hfront', hstatements, List.nil_append]

theorem Assembled.assign (h : Assembled targeted statements parameters m) :
    Assembled true statements parameters (withBrowserAssigned (withBrowserParameter m)) := by
  rw [withBrowser_eq]
  refine { h with statements_eq := ?_, parameters_eq := h.withParameter }
  refine ⟨[.assignBrowser browserParameter], by decide, ?_⟩
  exact congrArg (Statement.assignBrowser browserParameter :: ·) h.filter

/-! ### One step -/

theorem Assembled.next (h : Assembled targeted statements parameters m) (step : AssemblyStep) :
    Assembled (targeted || step.targets) (statements ++ step.statement?.toList)
      (parameters ++ step.parameter?.toList) (m.assembled step) := by
  cases step with
  | begin title =>
    show Assembled (targeted || false) (statements ++ []) (parameters ++ []) (beginMethod m title)
    rw [Bool.or_false, List.append_nil, List.append_nil]
    exact h.begin title
  | edit step =>
    obtain ⟨m', hbody, hnext⟩ := next_body m step
    have h' := h.of_sameBody hbody
    show Assembled _ (statements ++ []) (parameters ++ []) (m.next step)
    rw [hnext, List.append_nil, List.append_nil]
    cases (AssemblyStep.edit step).targets with
    | false => simpa using h'
    | true => simpa using h'.assign
  | addStatement s hs =>
    obtain ⟨front, hfront, heq⟩ := h.statements_eq
    show Assembled (targeted || false) (statements ++ [s]) (parameters ++ []) _
    rw [Bool.or_false, List.append_nil]
    refine { h with statements_eq := ⟨front, hfront, ?_⟩, statements_plain := fun t ht => ?_ }
    · show m.statements ++ [s] = _
      rw [heq, List.append_assoc]
    · rcases List.mem_append.mp ht with ht | ht
      · exact h.statements_plain t ht
      · exact List.mem_singleton.mp ht ▸ hs
  | addParameter p hp =>
    show Assembled (targeted || false) (statements ++ []) (parameters ++ [p]) _
    rw [Bool.or_false, List.append_nil]
    refine { h with parameters_eq := ?_, parameters_plain := fun q hq => ?_ }
    · show m.parameters ++ [p] = _
      rw [h.parameters_eq, List.append_assoc]
    · rcases List.mem_append.mp hq with hq | hq
      · exact h.parameters_plain q hq
      · exact List.mem_singleton.mp hq ▸ hp

/-! ### Runs -/

theorem Assembled.run (steps : List AssemblyStep)
    (h : Assembled targeted statements parameters m) :
    Assembled (targeted || steps.any (·.targets)) (statements ++ steps.filterMap (·.statement?))
      (parameters ++ steps.filterMap (·.parameter?)) (m.assemble steps) := by
  induction steps generalizing targeted statements parameters m with
  | nil =>
    show Assembled (targeted || false) (statements ++ []) (parameters ++ []) m
    rwa [Bool.or_false, List.append_nil, List.append_nil]
  | cons step rest ih =>
    have hrest := ih (h.next step)
    rw [Bool.or_assoc, List.append_assoc, List.append_assoc] at hrest
    have cons_eq : ∀ {α : Type} (f : AssemblyStep → Option α),
        (f step).toList ++ rest.filterMap f = (step :: rest).filterMap f := fun f => by
      cases hf : f step <;> simp [hf]
    rw [cons_eq, cons_eq] at hrest
    exact hrest

/-- **Where the browser is copied.** However a method is assembled, the statements that were added
stand in their order after one of four beginnings, and the browser is copied there if and only if
categories targeted a browser. Exactly then there is a parameter for the browser; it is the first
one, and no other has its name. -/
theorem assemble_browser (identifier : String) (steps : List AssemblyStep) :
    let m := (named identifier).assemble steps
    let targeted := steps.any (·.targets)
    (∃ front ∈ [[], [.resetBrowser], [.assignBrowser browserParameter],
        [.resetBrowser, .assignBrowser browserParameter]],
      m.statements = front ++ steps.filterMap (·.statement?) ∧
        (.assignBrowser browserParameter ∈ front ↔ targeted = true)) ∧
      m.parameters = browserParameters targeted ++ steps.filterMap (·.parameter?) ∧
      (m.parameters.map (·.name)).count browserParameter = if targeted then 1 else 0 := by
  intro m targeted
  have h : Assembled targeted (steps.filterMap (·.statement?)) (steps.filterMap (·.parameter?))
      m := by
    have hrun := (assembled_named identifier).run steps
    rwa [Bool.false_or, List.nil_append, List.nil_append] at hrun
  refine ⟨?_, h.parameters_eq, ?_⟩
  · obtain ⟨front, hfront, heq⟩ := h.statements_eq
    have hall : ∀ targeted, ∀ front ∈ fronts targeted,
        front ∈ [[], [.resetBrowser], [.assignBrowser browserParameter],
          [.resetBrowser, .assignBrowser browserParameter]] ∧
        (.assignBrowser browserParameter ∈ front ↔ targeted = true) := by decide
    obtain ⟨hmem, hiff⟩ := hall targeted front hfront
    exact ⟨front, hmem, heq, hiff⟩
  · have hfree : browserParameter ∉ (steps.filterMap (·.parameter?)).map (·.name) := by
      rw [List.mem_map]
      rintro ⟨p, hp, he⟩
      exact h.parameters_plain p hp he
    rw [h.parameters_eq, List.map_append, List.count_append, List.count_eq_zero_of_not_mem hfree]
    cases targeted <;> rfl

end TestMethod
end CrossBrowser
