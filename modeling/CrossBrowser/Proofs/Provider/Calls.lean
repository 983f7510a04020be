import CrossBrowser.Proofs.Generation.Methods
import CrossBrowser.Proofs.TestMethod.Assembly
import CrossBrowser.Provider.Recorded
import Mathlib.Data.List.Forall2

/-! Which steps a provider is asked for, and in which order.

A provider decides what its steps do, and may keep a state `σ` of its own between them; which steps
it is asked for is decided by the feature alone (`featureCalls`), as long as no step touches the
methods that are finished or the identifier of the one in hand. To tell, generation is run with the
recorded provider: `Records` says that such a run does what the plain one does and which calls it
notes, and goes through generation part by part. -/
namespace CrossBrowser

/-- A step that a provider is asked for, with what comes from the feature. What the provider itself
has made of the draft and of the method in hand is left out. -/
inductive ProviderCall where
  | beginClass (name title : String) (description : Option String)
  | classCategories (categories : List String)
  | classInitialize
  | beginMethod (identifier title : String)
  | methodCategories (identifier : String) (categories : List String)
  | row (identifier : String) (cells tags : List String) (ignored : Bool)
  | endClass
  deriving DecidableEq

def ProviderStep.call : ProviderStep → ProviderCall
  | .beginClass name title description => .beginClass name title description
  | .classCategories categories => .classCategories categories
  | .classInitialize => .classInitialize
  | .beginMethod identifier title _ => .beginMethod identifier title
  | .methodCategories method categories => .methodCategories method.identifier categories
  | .row identifier _ cells tags ignored => .row identifier cells tags ignored
  | .endClass _ => .endClass

/-! ### Actions with a state -/

section Actions
variable {σ α β : Type}

/-- Whatever the state, the result of the action has the property. -/
def Always (x : StateM σ α) (P : α → Prop) : Prop := ∀ s, P (x.run s).1

theorem Always.bind {x : StateM σ α} {f : α → StateM σ β} {P : α → Prop} {Q : β → Prop}
    (hx : Always x P) (hf : ∀ a, P a → Always (f a) Q) : Always (x >>= f) Q :=
  fun s => hf _ (hx s) (x.run s).2

/-- The recording `x` does what `y` does, and notes steps that are these calls. -/
def Records (x : Recording (StateM σ) α) (y : StateM σ α) (calls : List ProviderCall) : Prop :=
  ∀ log s, ∃ steps : List ProviderStep, steps.map (·.call) = calls ∧
    (x.run log).run s = (((y.run s).1, log ++ steps), (y.run s).2)

theorem Records.pure (a : α) : Records (σ := σ) (Pure.pure a) (Pure.pure a) [] :=
  fun log s => ⟨[], rfl, by rw [List.append_nil]; rfl⟩

theorem Records.note (step : ProviderStep) (y : StateM σ α) :
    Records (Recording.note step y) y [step.call] :=
  fun _ _ => ⟨[step], rfl, rfl⟩

/-- One recording after the other: the second may rely on what the first one always results in. -/
theorem Records.bind {x : Recording (StateM σ) α} {y : StateM σ α}
    {f : α → Recording (StateM σ) β} {g : α → StateM σ β} {calls calls' : List ProviderCall}
    {P : α → Prop} (hx : Records x y calls) (hy : Always y P)
    (hf : ∀ a, P a → Records (f a) (g a) calls') :
    Records (x >>= f) (y >>= g) (calls ++ calls') := by
  intro log s
  obtain ⟨steps, hsteps, hrun⟩ := hx log s
  obtain ⟨steps', hsteps', hrun'⟩ := hf _ (hy s) (log ++ steps) (y.run s).2
  refine ⟨steps ++ steps', by rw [List.map_append, hsteps, hsteps'], ?_⟩
  show (fun r => ((f r.1.1).run r.1.2).run r.2) ((x.run log).run s) = _
  rw [hrun, ← List.append_assoc]
  exact hrun'

end Actions

/-! ### Providers -/

/-- The identifiers of the methods that are finished. -/
def Draft.identifiers (d : Draft) : List String := d.testClass.methods.map (·.identifier)

/-- No step of the provider touches the methods that are finished, or the identifier of the method
in hand. -/
structure Provider.KeepsMethods {σ : Type} (p : Provider (StateM σ)) : Prop where
  beginClass (d : Draft) (title : String) (description : Option String) :
    Always (p.beginClass d title description) (·.testClass.methods = d.testClass.methods)
  classCategories (d : Draft) (categories : List String) :
    Always (p.classCategories d categories) (·.testClass.methods = d.testClass.methods)
  classInitialize (d : Draft) :
    Always (p.classInitialize d) (·.testClass.methods = d.testClass.methods)
  beginMethod (d : Draft) (m : TestMethod) (title : String) :
    Always (p.beginMethod d m title) fun (d', m') =>
      d'.testClass.methods = d.testClass.methods ∧ m'.identifier = m.identifier
  methodCategories (d : Draft) (m : TestMethod) (categories : List String) :
    Always (p.methodCategories d m categories) fun (d', m') =>
      d'.testClass.methods = d.testClass.methods ∧ m'.identifier = m.identifier
  row (d : Draft) (m : TestMethod) (cells tags : List String) (ignored : Bool) :
    Always (p.row d m cells tags ignored) fun (d', m') =>
      d'.testClass.methods = d.testClass.methods ∧ m'.identifier = m.identifier
  endClass (d : Draft) : Always (p.endClass d) (·.testClass.methods = d.testClass.methods)

/-- The provider whose steps do what those of `p` do, and leave the state alone. -/
def Provider.lifted {σ : Type} (p : Provider Id) : Provider (StateM σ) where
  beginClass d title description := pure (p.beginClass d title description)
  classCategories d categories := pure (p.classCategories d categories)
  classInitialize d := pure (p.classInitialize d)
  beginMethod d m title := pure (p.beginMethod d m title)
  methodCategories d m categories := pure (p.methodCategories d m categories)
  row d m cells tags ignored := pure (p.row d m cells tags ignored)
  endClass d := pure (p.endClass d)

theorem identifier_beginMethod (m : TestMethod) (title : String) :
    (RemoteBrowser.beginMethod m title).identifier = m.identifier := by
  obtain ⟨m', hbody, hbegin⟩ := TestMethod.beginMethod_body m title
  rw [hbegin]
  split <;> exact hbody.identifier

theorem identifier_next (m : TestMethod) (step : MethodStep) :
    (m.next step).identifier = m.identifier := by
  obtain ⟨m', hbody, hnext⟩ := TestMethod.next_body m step
  rw [hnext]
  split
  · rw [TestMethod.withBrowser_eq]
    exact hbody.identifier
  · exact hbody.identifier

/-- The provider for remote browsers touches neither. -/
theorem keepsMethods_remoteBrowser {σ : Type} :
    (Provider.lifted (σ := σ) RemoteBrowser.provider).KeepsMethods where
  beginClass _ _ _ _ := rfl
  classCategories _ _ _ := rfl
  classInitialize _ _ := rfl
  beginMethod d m title _ :=
    ⟨Generation.methods_readyScenario d, identifier_beginMethod m title⟩
  methodCategories _ m categories _ := ⟨rfl, identifier_next m (.categories categories)⟩
  row _ m cells tags ignored _ := ⟨rfl, identifier_next m (.setRow cells tags ignored)⟩
  endClass _ _ := rfl

namespace Generation

/-! ### The calls for a feature -/

/-- The calls for a scenario: its method is begun, and takes in the categories and each row. -/
def scenarioCalls (s : Scenario) : List ProviderCall :=
  let name := Naming.methodName s.title
  [.beginMethod name s.title, .methodCategories name s.tags] ++
    s.rows.map fun r => .row name r.cells r.tags r.ignored

/-- The scenarios before the first one whose method name is taken, by an earlier scenario if not to
begin with. -/
def beforeTaken (taken : List String) : List Scenario → List Scenario
  | [] => []
  | s :: rest =>
    let name := Naming.methodName s.title
    if name ∈ taken then [] else s :: beforeTaken (taken ++ [name]) rest

/-- The names of the methods of scenarios. -/
def methodNames (ss : List Scenario) : List String := ss.map fun s => Naming.methodName s.title

/-- The calls for a feature before any of its scenarios. -/
def draftCalls (f : Feature) : List ProviderCall :=
  [.beginClass (Naming.className f.title) f.title f.description] ++
    (if f.tags = [] then [] else [.classCategories f.tags]) ++ [.classInitialize]

/-- The calls for a feature. -/
def featureCalls (f : Feature) : List ProviderCall :=
  if f.fault? ≠ none then []
  else
    draftCalls f ++ (beforeTaken [] f.scenarios).flatMap scenarioCalls ++
      if (methodNames f.scenarios).Nodup then [.endClass] else []

theorem endClass_mem_featureCalls (f : Feature) :
    .endClass ∈ featureCalls f ↔ f.fault? = none ∧ (methodNames f.scenarios).Nodup := by
  have hdraft : .endClass ∉ draftCalls f := by
    unfold draftCalls
    split <;> simp
  have hscenario : ∀ s, .endClass ∉ scenarioCalls s := fun s => by simp [scenarioCalls]
  unfold featureCalls
  by_cases hfault : f.fault? = none
  · rw [if_neg (not_not.mpr hfault)]
    by_cases hnodup : (methodNames f.scenarios).Nodup <;>
      simp [hdraft, hscenario, hfault, hnodup]
  · simp [hfault]

/-! ### Adding scenarios -/

theorem method?_isSome_iff (d : Draft) (name : String) :
    (d.testClass.method? name).isSome = true ↔ name ∈ d.identifiers := by
  simp [TestClass.method?, Draft.identifiers]

theorem identifiers_addMethod (d : Draft) (m : TestMethod) :
    (d.addMethod m).identifiers = d.identifiers ++ [m.identifier] := by
  simp [Draft.identifiers, Draft.addMethod]

theorem addScenarios_taken {m : Type → Type} [Monad m] (p : Provider m) (d : Draft) (s : Scenario)
    (rest : List Scenario) (h : Naming.methodName s.title ∈ d.identifiers) :
    addScenarios p d (s :: rest) =
      pure (.error (.methodNameTaken s.title (Naming.methodName s.title))) :=
  if_pos ((method?_isSome_iff d _).mpr h)

theorem addScenarios_free {m : Type → Type} [Monad m] (p : Provider m) (d : Draft) (s : Scenario)
    (rest : List Scenario) (h : Naming.methodName s.title ∉ d.identifiers) :
    addScenarios p d (s :: rest) =
      makeMethod p d s >>= fun (d', method) => addScenarios p (d'.addMethod method) rest :=
  if_neg fun hsome => h ((method?_isSome_iff d _).mp hsome)

section
variable {σ : Type} {p : Provider (StateM σ)}

/-! ### What the plain provider makes -/

/-- A method that the provider makes for a scenario. -/
def Makes (p : Provider (StateM σ)) (s : Scenario) (m : TestMethod) : Prop :=
  m.identifier = Naming.methodName s.title ∧ ∃ d t, ((makeMethod p d s).run t).1.2 = m

theorem takeRows_keeps (hp : p.KeepsMethods) (rows : List ExampleRow) (d : Draft) (m : TestMethod) :
    Always (takeRows p d m rows) fun (d', m') =>
      d'.testClass.methods = d.testClass.methods ∧ m'.identifier = m.identifier := by
  induction rows generalizing d m with
  | nil => exact fun _ => ⟨rfl, rfl⟩
  | cons r rest ih =>
    refine (hp.row d m r.cells r.tags r.ignored).bind fun (d₁, m₁) h₁ s => ?_
    obtain ⟨hd, hm⟩ := ih d₁ m₁ s
    exact ⟨hd.trans h₁.1, hm.trans h₁.2⟩

theorem makeMethod_keeps (hp : p.KeepsMethods) (d : Draft) (s : Scenario) :
    Always (makeMethod p d s) fun (d', m) =>
      d'.testClass.methods = d.testClass.methods ∧ m.identifier = Naming.methodName s.title := by
  refine (hp.beginMethod d _ s.title).bind fun (d₁, m₁) h₁ => ?_
  refine (hp.methodCategories d₁ (addScenario m₁ s) s.tags).bind fun (d₂, m₂) h₂ t => ?_
  obtain ⟨hd, hm⟩ := takeRows_keeps hp s.rows d₂ m₂ t
  exact ⟨hd.trans (h₂.1.trans h₁.1), hm.trans (h₂.2.trans h₁.2)⟩

theorem makeMethod_makes (hp : p.KeepsMethods) (d : Draft) (s : Scenario) :
    Always (makeMethod p d s) fun (d', m) =>
      d'.testClass.methods = d.testClass.methods ∧ Makes p s m :=
  fun t => ⟨(makeMethod_keeps hp d s t).1, (makeMethod_keeps hp d s t).2, d, t, rfl⟩

/-- Scenarios are added exactly if their names differ from each other and from those that are
taken, and then their methods come after the others, in order. -/
theorem addScenarios_makes (hp : p.KeepsMethods) (ss : List Scenario) (d : Draft) :
    Always (addScenarios p d ss) fun r =>
      (r.isOk = true ↔ (methodNames ss).Nodup ∧ ∀ name ∈ methodNames ss, name ∉ d.identifiers) ∧
        ∀ d', r = .ok d' → ∃ ms, d'.testClass.methods = d.testClass.methods ++ ms ∧
          List.Forall₂ (Makes p) ss ms := by
  induction ss generalizing d with
  | nil =>
    refine fun s => ⟨iff_of_true rfl ⟨List.nodup_nil, fun _ h => absurd h List.not_mem_nil⟩, ?_⟩
    intro d' h
    obtain rfl := Except.ok.inj h
    exact ⟨[], (List.append_nil _).symm, .nil⟩
  | cons s rest ih =>
    by_cases htaken : Naming.methodName s.title ∈ d.identifiers
    · rw [addScenarios_taken p d s rest htaken]
      refine fun _ => ⟨iff_of_false Bool.false_ne_true fun h => ?_, fun d' h => ?_⟩
      · exact h.2 _ List.mem_cons_self htaken
      · cases h
    · rw [addScenarios_free p d s rest htaken]
      refine (makeMethod_makes hp d s).bind fun (d₁, m) ⟨hd, hm⟩ t => ?_
      obtain ⟨hok, hmethods⟩ := ih (d₁.addMethod m) t
      have hidentifiers : (d₁.addMethod m).identifiers =
          d.identifiers ++ [Naming.methodName s.title] := by
        rw [identifiers_addMethod, Draft.identifiers, hd, hm.1]
        rfl
      refine ⟨hok.trans ?_, fun d' h => ?_⟩
      · rw [hidentifiers]
        simp only [methodNames, List.map_cons, List.nodup_cons, List.mem_append,
          List.mem_singleton, List.forall_mem_cons, not_or]
        constructor
        · rintro ⟨hnodup, hfree⟩
          exact ⟨⟨fun hmem => (hfree _ hmem).2 rfl, hnodup⟩, htaken, fun name h => (hfree name h).1⟩
        · rintro ⟨⟨hnew, hnodup⟩, _, hfree⟩
          exact ⟨hnodup, fun name h => ⟨hfree name h, fun he => hnew (he ▸ h)⟩⟩
      · obtain ⟨ms, hms, hmade⟩ := hmethods d' h
        refine ⟨m :: ms, ?_, .cons hm hmade⟩
        rw [hms]
        show (d₁.testClass.methods ++ [m]) ++ ms = _
        rw [hd, List.append_assoc, List.singleton_append]

/-! ### What the recorded provider notes -/

theorem takeRows_records (hp : p.KeepsMethods) (rows : List ExampleRow) (d : Draft)
    (m : TestMethod) :
    Records (takeRows p.recorded d m rows) (takeRows p d m rows)
      (rows.map fun r => .row m.identifier r.cells r.tags r.ignored) := by
  induction rows generalizing d m with
  | nil => exact .pure (d, m)
  | cons r rest ih =>
    refine (Records.note _ _).bind (hp.row d m r.cells r.tags r.ignored) fun (d₁, m₁) h₁ => ?_
    rw [← h₁.2]
    exact ih d₁ m₁

theorem makeMethod_records (hp : p.KeepsMethods) (d : Draft) (s : Scenario) :
    Records (makeMethod p.recorded d s) (makeMethod p d s) (scenarioCalls s) := by
  rw [scenarioCalls, ← List.singleton_append, List.append_assoc]
  refine (Records.note _ _).bind (hp.beginMethod d _ s.title) fun (d₁, m₁) h₁ => ?_
  have hname : m₁.identifier = Naming.methodName s.title := h₁.2
  rw [← hname]
  refine (Records.note _ _).bind (hp.methodCategories d₁ (addScenario m₁ s) s.tags)
    fun (d₂, m₂) h₂ => ?_
  have hrows := takeRows_records hp s.rows d₂ m₂
  rw [show m₂.identifier = m₁.identifier from h₂.2] at hrows
  exact hrows

theorem addScenarios_records (hp : p.KeepsMethods) (ss : List Scenario) (d : Draft) :
    Records (addScenarios p.recorded d ss) (addScenarios p d ss)
      ((beforeTaken d.identifiers ss).flatMap scenarioCalls) := by
  induction ss generalizing d with
  | nil => exact .pure (Except.ok d)
  | cons s rest ih =>
    rw [beforeTaken]
    by_cases htaken : Naming.methodName s.title ∈ d.identifiers
    · rw [addScenarios_taken _ d s rest htaken, addScenarios_taken _ d s rest htaken,
        if_pos htaken]
      exact .pure _
    · rw [addScenarios_free _ d s rest htaken, addScenarios_free _ d s rest htaken,
        if_neg htaken, List.flatMap_cons]
      refine (makeMethod_records hp d s).bind (makeMethod_keeps hp d s) fun (d₁, m) h₁ => ?_
      have hrest := ih (d₁.addMethod m)
      rw [identifiers_addMethod, Draft.identifiers, h₁.1, h₁.2] at hrest
      exact hrest

/-! ### Whole features -/

/-- What becomes of the draft of a class by the categories of its feature, if there are any. -/
def takeCategories {m : Type → Type} [Monad m] (p : Provider m) (categories : List String)
    (d : Draft) : m Draft :=
  if categories = [] then pure d else p.classCategories d categories

theorem beginDraft_eq {m : Type → Type} [Monad m] (p : Provider m) (namespaceName : String)
    (f : Feature) :
    beginDraft p namespaceName f =
      p.beginClass (.named namespaceName (Naming.className f.title)) f.title f.description >>=
        fun d => takeCategories p f.tags d >>= fun d => p.classInitialize d := by
  unfold beginDraft takeCategories
  by_cases h : f.tags = []
  · simp only [if_pos h]
  · simp only [if_neg h]

theorem takeCategories_keeps (hp : p.KeepsMethods) (categories : List String) (d : Draft) :
    Always (takeCategories p categories d) (·.testClass.methods = d.testClass.methods) := by
  unfold takeCategories
  split
  · exact fun _ => rfl
  · exact hp.classCategories d categories

theorem takeCategories_records (categories : List String) (d : Draft) :
    Records (takeCategories p.recorded categories d) (takeCategories p categories d)
      (if categories = [] then [] else [.classCategories categories]) := by
  unfold takeCategories
  split
  · exact .pure d
  · exact .note _ _

theorem beginDraft_keeps (hp : p.KeepsMethods) (namespaceName : String) (f : Feature) :
    Always (beginDraft p namespaceName f) (·.identifiers = []) := by
  rw [beginDraft_eq]
  refine (hp.beginClass _ f.title f.description).bind fun d hd => ?_
  refine (takeCategories_keeps hp f.tags d).bind fun d' hd' s => ?_
  have hmethods := (hp.classInitialize d' s).trans (hd'.trans hd)
  rw [Draft.identifiers, hmethods]
  rfl

theorem beginDraft_records (hp : p.KeepsMethods) (namespaceName : String) (f : Feature) :
    Records (beginDraft p.recorded namespaceName f) (beginDraft p namespaceName f)
      (draftCalls f) := by
  rw [beginDraft_eq, beginDraft_eq, draftCalls, List.append_assoc]
  refine (Records.note _ _).bind (hp.beginClass _ f.title f.description) fun d _ => ?_
  exact (takeCategories_records f.tags d).bind (takeCategories_keeps hp f.tags d)
    fun d' _ => .note _ _

/-- The class of a draft to which the scenarios have been added, if they could be. -/
def finish {m : Type → Type} [Monad m] (p : Provider m) :
    Except FeatureFault Draft → m (Except FeatureFault TestClass)
  | .error fault => return .error fault
  | .ok d => return .ok (← p.endClass d).testClass

theorem generateWith_of_fault {m : Type → Type} [Monad m] (p : Provider m) (namespaceName : String)
    (f : Feature) (fault : FeatureFault) (h : f.fault? = some fault) :
    generateWith p namespaceName f = pure (.error fault) := by
  rw [generateWith, h]

theorem generateWith_of_valid {m : Type → Type} [Monad m] (p : Provider m) (namespaceName : String)
    (f : Feature) (h : f.fault? = none) :
    generateWith p namespaceName f =
      beginDraft p namespaceName f >>= fun d => addScenarios p d f.scenarios >>= finish p := by
  rw [generateWith, h]
  rfl

theorem finish_records (hp : p.KeepsMethods) (r : Except FeatureFault Draft) :
    Records (finish p.recorded r) (finish p r) (if r.isOk then [.endClass] else []) := by
  cases r with
  | error fault => exact .pure _
  | ok d => exact (Records.note _ _).bind (hp.endClass d) fun d' _ => .pure _

/-- Adding the scenarios of a feature to the draft of its class. -/
theorem addScenarios_of_begun (hp : p.KeepsMethods) (ss : List Scenario) (d : Draft)
    (hd : d.identifiers = []) :
    Always (addScenarios p d ss) fun r =>
      (r.isOk = true ↔ (methodNames ss).Nodup) ∧
        ∀ d', r = .ok d' → List.Forall₂ (Makes p) ss d'.testClass.methods := by
  intro s
  obtain ⟨hok, hmethods⟩ := addScenarios_makes hp ss d s
  have hnone : d.testClass.methods = [] := List.map_eq_nil_iff.mp hd
  refine ⟨hok.trans (and_iff_left fun name _ => ?_), fun d' h => ?_⟩
  · rw [hd]
    exact List.not_mem_nil
  · obtain ⟨ms, hms, hmade⟩ := hmethods d' h
    rw [hms, hnone, List.nil_append]
    exact hmade

theorem generateWith_records (hp : p.KeepsMethods) (namespaceName : String) (f : Feature) :
    Records (generateWith p.recorded namespaceName f) (generateWith p namespaceName f)
      (featureCalls f) := by
  unfold featureCalls
  cases hfault : f.fault? with
  | some fault =>
    rw [generateWith_of_fault _ _ _ _ hfault, generateWith_of_fault _ _ _ _ hfault]
    exact .pure _
  | none =>
    rw [generateWith_of_valid _ _ _ hfault, generateWith_of_valid _ _ _ hfault,
      if_neg (not_not.mpr rfl), List.append_assoc]
    refine (beginDraft_records hp namespaceName f).bind (beginDraft_keeps hp namespaceName f)
      fun d hd => ?_
    have hscenarios := addScenarios_records hp f.scenarios d
    rw [hd] at hscenarios
    refine hscenarios.bind (addScenarios_of_begun hp f.scenarios d hd) fun r hr => ?_
    have hfinish := finish_records hp r
    rwa [if_congr hr.1 rfl rfl] at hfinish

theorem generateWith_makes (hp : p.KeepsMethods) (namespaceName : String) (f : Feature) :
    Always (generateWith p namespaceName f) fun r =>
      (r.isOk = true ↔ f.fault? = none ∧ (methodNames f.scenarios).Nodup) ∧
        ∀ c, r = .ok c → List.Forall₂ (Makes p) f.scenarios c.methods := by
  cases hfault : f.fault? with
  | some fault =>
    rw [generateWith_of_fault _ _ _ _ hfault]
    refine fun _ => ⟨iff_of_false Bool.false_ne_true fun h => ?_, fun c h => ?_⟩
    · cases h.1
    · cases h
  | none =>
    rw [generateWith_of_valid _ _ _ hfault]
    refine (beginDraft_keeps hp namespaceName f).bind fun d hd => ?_
    refine (addScenarios_of_begun hp f.scenarios d hd).bind fun r ⟨hok, hmethods⟩ => ?_
    cases r with
    | error fault =>
      exact fun _ => ⟨hok.trans (and_iff_right rfl).symm, fun c h => by cases h⟩
    | ok d' =>
      refine (hp.endClass d').bind fun d'' hd'' _ => ⟨hok.trans (and_iff_right rfl).symm, ?_⟩
      intro c h
      obtain rfl := Except.ok.inj h
      show List.Forall₂ (Makes p) f.scenarios d''.testClass.methods
      rw [hd'']
      exact hmethods d' rfl

/-- **The calls of a provider.** Whatever state a provider keeps, if none of its steps touches the
finished methods or the identifier of the method in hand, generating a feature asks it for exactly
the steps of `featureCalls`. A class comes of it if and only if it is asked to end the class, and
then the methods of the class are those that it has made for the scenarios, in order. -/
theorem generateWith_calls (p : Provider (StateM σ)) (hp : p.KeepsMethods) (namespaceName : String)
    (f : Feature) (s : σ) :
    let recorded := ((generateWith p.recorded namespaceName f).run []).run s
    let plain := (generateWith p namespaceName f).run s
    (recorded.1.1 = plain.1 ∧ recorded.2 = plain.2) ∧
      recorded.1.2.map (·.call) = featureCalls f ∧
      (plain.1.isOk = true ↔ .endClass ∈ featureCalls f) ∧
      ∀ c, plain.1 = .ok c → List.Forall₂ (Makes p) f.scenarios c.methods := by
  intro recorded plain
  obtain ⟨steps, hsteps, hrun⟩ := generateWith_records hp namespaceName f [] s
  obtain ⟨hok, hmethods⟩ := generateWith_makes hp namespaceName f s
  have hrecorded : recorded = ((plain.1, steps), plain.2) := hrun
  rw [hrecorded]
  exact ⟨⟨rfl, rfl⟩, hsteps, hok.trans (endClass_mem_featureCalls f).symm, hmethods⟩

end

/-- A feature with two scenarios that lead to the same method name. -/
def twinFeature : Feature :=
  { title := "Search"
    description := none
    tags := ["nightly"]
    scenarios :=
      [{ title := "Find a page"
         tags := ["browser:chrome", "smoke"]
         examples := some
          { columns := ["term"], rows := [⟨["a"], ["x"], true⟩, ⟨["b"], [], false⟩] } },
       { title := "Open the front page", tags := [], examples := none },
       { title := "Find a page!", tags := ["browser:safari"], examples := none },
       { title := "Leave", tags := [], examples := none }] }

/-- What a call for the third scenario would be is not called for, nor anything after it. -/
theorem generateWith_calls_twin :
    let p : Provider (StateM Nat) := .lifted RemoteBrowser.provider
    let recorded := ((generateWith p.recorded "Pages" twinFeature).run []).run 0
    let plain := (generateWith p "Pages" twinFeature).run 0
    p.KeepsMethods ∧
      featureCalls twinFeature =
        [.beginClass "SearchFeature" "Search" none, .classCategories ["nightly"], .classInitialize,
          .beginMethod "FindAPage" "Find a page",
          .methodCategories "FindAPage" ["browser:chrome", "smoke"],
          .row "FindAPage" ["a"] ["x"] true, .row "FindAPage" ["b"] [] false,
          .beginMethod "OpenTheFrontPage" "Open the front page",
          .methodCategories "OpenTheFrontPage" []] ∧
      (recorded.1.1 = plain.1 ∧ recorded.2 = plain.2) ∧
      recorded.1.2.map (·.call) = featureCalls twinFeature ∧
      (plain.1.isOk = true ↔ .endClass ∈ featureCalls twinFeature) ∧
      ∀ c, plain.1 = .ok c → List.Forall₂ (Makes p) twinFeature.scenarios c.methods :=
  ⟨keepsMethods_remoteBrowser, by decide +kernel,
    generateWith_calls _ keepsMethods_remoteBrowser "Pages" twinFeature 0⟩

end Generation
end CrossBrowser
