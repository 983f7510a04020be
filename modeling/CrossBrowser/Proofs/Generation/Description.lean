import CrossBrowser.Proofs.Generation.Shape

/-! What a scenario says of its method.

A method gets its parameters and statements from two sides, and those for the browser are put in
front of what is there. What comes out can be read off the scenario (`Describes`): the title gives
the name, the tags the categories and whether a browser is taken, and the table of examples the
other parameters, all of which have different names (`parameterNames_nodup`). -/
namespace CrossBrowser.Generation
open RemoteBrowser

/-- The columns of a table: those it names, or else one for each cell of its first row, named by
position. -/
def headings : ExampleTable → List String
  | ⟨[], []⟩ => []
  | ⟨[], first :: _⟩ => first.cells.mapIdx fun i _ => "arg" ++ toString i
  | ⟨columns, _⟩ => columns

/-- What a scenario says of its method: all but the cases and the notes. -/
structure Describes (s : Scenario) (m : TestMethod) : Prop where
  identifier : m.identifier = Naming.methodName s.title
  description : m.description = some s.title
  markers : m.markers = [.test]
  categories : m.categories = s.tags.filter (!targetsBrowser ·)
  parameters : m.parameters =
    (if s.tags.any targetsBrowser then [⟨"string", "browserConfiguration", none⟩] else []) ++
      match s.examples with
      | none => []
      | some t =>
        (Naming.parameterNames (headings t) ["browserConfiguration", "exampleTags"]).map
            (⟨"string", ·, none⟩) ++
          [⟨"string[]", "exampleTags", none⟩]
  statements : m.statements =
    [if s.tags.any targetsBrowser then .assignBrowser "browserConfiguration" else .resetBrowser,
      .createScenarioInfo s.title (s.tags.filter (!targetsBrowser ·)), .initializeScenario]
  named : (m.parameters.map (·.name)).Nodup

/-! ### Parameters -/

theorem columnNames_eq_headings (t : ExampleTable) : t.columnNames = headings t := by
  obtain ⟨columns, rows⟩ := t
  match columns, rows with
  | [], [] => rfl
  | [], first :: rest =>
    refine List.ext_getElem (by simp [headings, ExampleTable.columnNames, ExampleTable.firstWidth])
      fun i _ _ => ?_
    simp [headings, ExampleTable.columnNames]
  | column :: columns, rows => rfl

/-- A method takes a browser exactly if a tag targets one. -/
theorem browsers_eq_nil_iff (s : Scenario) :
    s.browsers = [] ↔ ¬s.tags.any targetsBrowser = true := by
  rw [← hasBrowsers_classify, hasBrowsers_iff, not_not]

theorem exampleParameters_eq (t : ExampleTable) :
    exampleParameters t =
      (Naming.parameterNames (headings t) ["browserConfiguration", "exampleTags"]).map
          (⟨"string", ·, none⟩) ++
        [⟨"string[]", "exampleTags", none⟩] := by
  rw [← columnNames_eq_headings]
  rfl

theorem names_exampleParameters (t : ExampleTable) :
    (exampleParameters t).map (·.name) =
      Naming.parameterNames t.columnNames reservedParameters ++ [tagsParameter] := by
  rw [exampleParameters, List.map_append, List.map_map]
  exact congrArg (· ++ _) (List.map_id _)

/-- The parameters that take the arguments of a row have different names, and none of them is that
of the parameter that takes the browser. -/
theorem exampleParameters_nodup (t : ExampleTable) :
    (browserParameter :: (exampleParameters t).map (·.name)).Nodup := by
  have hfree := Naming.parameterNames_not_reserved t.columnNames reservedParameters (by decide)
  rw [names_exampleParameters, List.nodup_cons, List.mem_append, not_or]
  refine ⟨⟨fun h => hfree _ h List.mem_cons_self, by decide⟩, ?_⟩
  refine List.nodup_append.mpr ⟨Naming.parameterNames_nodup _ _, List.nodup_singleton _, ?_⟩
  rintro name hname _ hlast rfl
  rw [List.mem_singleton.mp hlast] at hname
  exact hfree _ hname (List.mem_cons_of_mem _ List.mem_cons_self)

/-- The parameters of a method have different names. -/
theorem parameters_nodup (s : Scenario) : ((shapedMethod s).parameters.map (·.name)).Nodup := by
  have hrow : (browserParameter ::
      ((s.examples.map exampleParameters).getD []).map (·.name)).Nodup := by
    cases s.examples with
    | none => exact List.nodup_singleton _
    | some t => exact exampleParameters_nodup t
  rw [shapedMethod, List.map_append]
  split
  · exact (List.nodup_cons.mp hrow).2
  · exact hrow

/-! ### Methods -/

theorem describes_shapedMethod (s : Scenario) : Describes s (shapedMethod s) where
  identifier := rfl
  description := rfl
  markers := rfl
  categories := rfl
  parameters := by
    have hbrowser : (if s.browsers = [] then [] else [browserParameterOf]) =
        if s.tags.any targetsBrowser then [browserParameterOf] else [] := by
      simp only [browsers_eq_nil_iff, ite_not]
    rw [shapedMethod, hbrowser]
    cases s.examples with
    | none => rfl
    | some t => exact congrArg _ (exampleParameters_eq t)
  statements := by
    simp only [shapedMethod, firstStatement, browsers_eq_nil_iff, ite_not]
    rfl
  named := parameters_nodup s

/-- **What the methods are.** The class of a feature has one method for each scenario, in order, and
each method is what its scenario says. -/
theorem generate_describes (namespaceName : String) (f : Feature) (c : TestClass)
    (h : generate namespaceName f = .ok c) : List.Forall₂ Describes f.scenarios c.methods := by
  obtain rfl := generate_shape namespaceName f c h
  show List.Forall₂ Describes f.scenarios (f.scenarios.map shapedMethod)
  rw [List.forall₂_map_right_iff, List.forall₂_same]
  exact fun s _ => describes_shapedMethod s

/-- A feature with columns whose names repeat, are reserved words, or are those of the parameters
for the browser and the tags, with rows without columns, and with browsers written in several
ways. -/
def clashingFeature : Feature :=
  { title := "Search"
    description := none
    tags := []
    scenarios :=
      [{ title := "Find a page"
         tags := ["slow", "browser:chrome", "Browser:", "slow"]
         examples := some
          { columns := ["class", "Class", "browser configuration", "example tags", "class 1", ""]
            rows := [⟨["a", "b", "c", "d", "e", "f"], ["x"], false⟩] } },
        { title := "Find two pages"
          tags := []
          examples := some { columns := [], rows := [⟨["a", "b"], [], true⟩] } },
        { title := "Find nothing", tags := ["BROWSERS"], examples := none }] }

theorem generate_describes_clashing :
    ∃ c, generate "Pages" clashingFeature = .ok c ∧
      List.Forall₂ Describes clashingFeature.scenarios c.methods := by
  obtain ⟨c, h⟩ : ∃ c, generate "Pages" clashingFeature = .ok c := exists_ok (by decide +kernel)
  exact ⟨c, h, generate_describes "Pages" clashingFeature c h⟩

end CrossBrowser.Generation
