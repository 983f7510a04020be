import CrossBrowser.Provider.Basic

/-! Recording the steps of a provider.

A recorded provider does what another provider does and notes every step it is asked for, together
with what it was given. -/
namespace CrossBrowser

/-- A step that a provider was asked for. -/
inductive ProviderStep where
  | beginClass (name title : String) (description : Option String)
  | classCategories (categories : List String)
  | classInitialize
  | beginMethod (identifier title : String) (scenarioReady : Bool)
  | methodCategories (method : TestMethod) (categories : List String)
  | row (identifier : String) (browsers cells tags : List String) (ignored : Bool)
  | endClass (methods : Nat)
  deriving DecidableEq

/-- A recording of what goes on in `m`: the steps so far. -/
abbrev Recording (m : Type → Type) := StateT (List ProviderStep) m

variable {m : Type → Type} [Monad m]

/-- Notes a step, and then does what is to be done for it. -/
def Recording.note {α : Type} (step : ProviderStep) (action : m α) : Recording m α := do
  modify (· ++ [step])
  action

/-- The provider that notes each step and then does it as `p` does. -/
def Provider.recorded (p : Provider m) : Provider (Recording m) where
  beginClass d title description :=
    Recording.note (.beginClass d.testClass.name title description)
      (p.beginClass d title description)
  classCategories d categories :=
    Recording.note (.classCategories categories) (p.classCategories d categories)
  classInitialize d := Recording.note .classInitialize (p.classInitialize d)
  beginMethod d method title :=
    Recording.note (.beginMethod method.identifier title d.scenarioReady)
      (p.beginMethod d method title)
  methodCategories d method categories :=
    Recording.note (.methodCategories method categories) (p.methodCategories d method categories)
  row d method cells tags ignored :=
    Recording.note (.row method.identifier method.metadata.browsers cells tags ignored)
      (p.row d method cells tags ignored)
  endClass d := Recording.note (.endClass d.testClass.methods.length) (p.endClass d)

end CrossBrowser
