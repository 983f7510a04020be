import CrossBrowser.CSharp.Source
import CrossBrowser.Proofs.CSharp.Lines
import CrossBrowser.Proofs.Generation.Description
import CrossBrowser.Proofs.Naming.Identifiers

/-! Parameters and the other variables of a test method.

The body of a test method gives a value to the field for the browser, and to a variable of its own
for what is known of the scenario (`assignedNames_shape`). No column can lead to the name of the
field, which goes on with a letter after its underscore. But a column can lead to the name of the
variable, and that name is not reserved (`generate_variables`). -/
namespace CrossBrowser
namespace CSharp

/-! ### Assignments in lines of code -/

/-- What stands before the first equals sign with blanks around it, if there is one. -/
def beforeEquals? : List Char → Option (List Char)
  | ' ' :: '=' :: ' ' :: _ => some []
  | c :: rest => (beforeEquals? rest).map (c :: ·)
  | [] => none

def lastWord (cs : List Char) : List Char := (cs.reverse.takeWhile (· ≠ ' ')).reverse

/-- The variable that a line of code declares or assigns, if it does: the word before the equals
sign. -/
def assigned? (line : String) : Option String :=
  (beforeEquals? line.toList).map fun front => String.ofList (lastWord front)

/-- The variables that the code of statements declares or assigns, in order. -/
def assignedNames (xs : List Statement) : List String :=
  (linesOf (xs.flatMap statementSteps)).filterMap assigned?

theorem assignedNames_append (xs ys : List Statement) :
    assignedNames (xs ++ ys) = assignedNames xs ++ assignedNames ys := by
  rw [assignedNames, List.flatMap_append, linesOf_append, List.filterMap_append]
  rfl

/-- An equals sign that has been found stays the first one. -/
theorem beforeEquals?_append {text front : List Char} (h : beforeEquals? text = some front)
    (tail : List Char) : beforeEquals? (text ++ tail) = some front := by
  induction text using beforeEquals?.induct generalizing front with
  | case1 rest => exact h
  | case2 c rest hother ih =>
    rw [beforeEquals?.eq_2 _ _ hother] at h
    obtain ⟨later, hlater, rfl⟩ := Option.map_eq_some_iff.mp h
    -- What has an equals sign in it is long enough to be compared with the signs looked for.
    have hother' : ∀ more, c = ' ' → rest ++ tail = '=' :: ' ' :: more → False := by
      intro more hc heq
      match rest with
      | [] | [_] => simp [beforeEquals?] at hlater
      | x :: y :: rest =>
        simp only [List.cons_append, List.cons.injEq] at heq
        exact hother rest hc (by rw [heq.1, heq.2.1])
    rw [List.cons_append, beforeEquals?.eq_2 _ _ hother', ih hlater]
    rfl
  | case3 => cases h

theorem assigned?_ofList_append {text : List Char} {name : String}
    (h : (beforeEquals? text).map (fun front => String.ofList (lastWord front)) = some name)
    (tail : String) : assigned? (String.ofList text ++ tail) = some name := by
  obtain ⟨front, hfront, hname⟩ := Option.map_eq_some_iff.mp h
  rw [assigned?, String.toList_append, String.toList_ofList, beforeEquals?_append hfront]
  exact congrArg some hname

theorem assigned?_ofList {text : List Char} {name : Option String}
    (h : (beforeEquals? text).map (fun front => String.ofList (lastWord front)) = name) :
    assigned? (String.ofList text) = name := by
  rwa [assigned?, String.toList_ofList]

end CSharp

namespace Generation
open CSharp

/-! ### The body of a test method -/

/-- What the body of a test method declares or assigns. -/
theorem assignedNames_shape (s : Scenario) :
    assignedNames (shapedMethod s).statements =
      ["_currentBrowserConfiguration", "scenarioInfo"] := by
  have hfirst : assignedNames [firstStatement s] = ["_currentBrowserConfiguration"] := by
    unfold firstStatement
    split
    · exact List.filterMap_cons_some (assigned?_ofList rfl)
    · refine List.filterMap_cons_some ?_
      rw [String.append_assoc]
      exact assigned?_ofList_append rfl _
  have hinfo : ∀ title tags, assignedNames [.createScenarioInfo title tags] = ["scenarioInfo"] := by
    intro title tags
    refine List.filterMap_cons_some ?_
    rw [String.append_assoc, String.append_assoc, String.append_assoc]
    exact assigned?_ofList_append rfl _
  have hbegin : assignedNames [.initializeScenario] = [] :=
    List.filterMap_cons_none (assigned?_ofList rfl)
  have hbody : (shapedMethod s).statements =
      [firstStatement s] ++ ([.createScenarioInfo s.title (classify s.tags).plain] ++
        [.initializeScenario]) := rfl
  rw [hbody, assignedNames_append, assignedNames_append, hfirst, hinfo, hbegin]
  rfl

/-! ### Parameters -/

/-- The variables that the parameters of a method are, without the `@` that escapes their names. -/
def parameterVariables (m : TestMethod) : List String :=
  m.parameters.map fun p => Naming.unescape p.name

/-- The columns of the examples of a scenario. -/
def columnsOf (s : Scenario) : List String := (s.examples.map (·.columnNames)).getD []

theorem variables_exampleParameters (t : ExampleTable) :
    (exampleParameters t).map (fun p => Naming.unescape p.name) =
      Naming.distinctNames reservedParameters t.columnNames ++ [tagsParameter] := by
  have hnames := congrArg (List.map Naming.unescape) (names_exampleParameters t)
  rw [List.map_map, List.map_append, Naming.map_unescape_parameterNames] at hnames
  exact hnames

/-- A name that is not reserved and does not end in a digit is that of a parameter exactly if a
column leads to it. -/
theorem mem_parameterVariables_iff (s : Scenario) {name : String}
    (hfree : name ∉ reservedParameters) (hname : Naming.EndsInNoDigit name) :
    name ∈ parameterVariables (shapedMethod s) ↔
      ∃ column ∈ columnsOf s, Naming.parameterName column = name := by
  have hbrowser : name ∉ (if s.browsers = [] then [] else [browserParameterOf]).map
      fun p => Naming.unescape p.name := by
    split
    · exact List.not_mem_nil
    · exact fun h => hfree (List.mem_cons.mpr (.inl (List.mem_singleton.mp h)))
  rw [parameterVariables, shapedMethod, List.map_append, List.mem_append, or_iff_right hbrowser,
    columnsOf]
  cases s.examples with
  | none => simp
  | some t =>
    have htags : name ∉ [tagsParameter] := fun h => hfree (List.mem_cons_of_mem _ h)
    show name ∈ (exampleParameters t).map _ ↔ ∃ column ∈ t.columnNames, _
    rw [variables_exampleParameters, List.mem_append, or_iff_left htags]
    exact Naming.mem_distinctNames_iff hfree hname

/-- The names of the variables of a body, as far as they are names of parameters. -/
structure Variables (s : Scenario) (m : TestMethod) : Prop where
  assigned : assignedNames m.statements = ["_currentBrowserConfiguration", "scenarioInfo"]
  field : "_currentBrowserConfiguration" ∉ parameterVariables m
  scenarioInfo : "scenarioInfo" ∈ parameterVariables m ↔
    ∃ column ∈ columnsOf s, Naming.parameterName column = "scenarioInfo"

theorem field_not_parameter (s : Scenario) :
    "_currentBrowserConfiguration" ∉ parameterVariables (shapedMethod s) := by
  intro h
  obtain ⟨column, _, hname⟩ :=
    (mem_parameterVariables_iff s (by decide) (by decide +kernel)).mp h
  have hnumeral := Naming.isNumeral_of_underscore (congrArg String.toList hname)
  exact absurd hnumeral (by decide +kernel)

/-- **Which variables are hidden.** The body of a test method declares or assigns two variables. The
field is never a parameter; the variable for what is known of the scenario is one exactly if a
column leads to its name. -/
theorem generate_variables (namespaceName : String) (f : Feature) (c : TestClass)
    (h : generate namespaceName f = .ok c) : List.Forall₂ Variables f.scenarios c.methods := by
  rw [generate_shape namespaceName f c h]
  show List.Forall₂ Variables f.scenarios (f.scenarios.map shapedMethod)
  rw [List.forall₂_map_right_iff, List.forall₂_same]
  intro s _
  exact
    { assigned := assignedNames_shape s
      field := field_not_parameter s
      scenarioInfo := mem_parameterVariables_iff s (by decide) (by decide +kernel) }

/-- A feature with a column for what a variable is called. -/
def hiddenFeature : Feature :=
  { title := "Search"
    description := none
    tags := []
    scenarios :=
      [{ title := "Find a page"
         tags := []
         examples := some { columns := ["scenario info"], rows := [⟨["a"], [], false⟩] } }] }

/-- A class can be generated with a method that has a variable for a parameter. -/
theorem generate_variables_hidden :
    ∃ c, generate "Pages" hiddenFeature = .ok c ∧
      ∃ m ∈ c.methods, ∃ name ∈ assignedNames m.statements, name ∈ parameterVariables m := by
  obtain ⟨c, h⟩ : ∃ c, generate "Pages" hiddenFeature = .ok c := exists_ok (by decide +kernel)
  obtain ⟨m, rest, hm, _, heq⟩ :=
    List.forall₂_cons_left_iff.mp (generate_variables "Pages" hiddenFeature c h)
  refine ⟨c, h, m, heq ▸ List.mem_cons_self, "scenarioInfo", ?_, hm.scenarioInfo.mpr ?_⟩
  · rw [hm.assigned]
    decide
  · exact ⟨"scenario info", List.mem_singleton_self _, by decide +kernel⟩

end Generation
end CrossBrowser
