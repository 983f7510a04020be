import CrossBrowser.TestClass

/-! A test class under construction.

The draft of a class also knows whether the step that begins a scenario has been set up, which
happens once for the class however many methods need it. -/
namespace CrossBrowser

/-- A test class under construction. -/
structure Draft where
  testClass : TestClass
  /-- Whether the step that begins a scenario has been set up. -/
  scenarioReady : Bool
  deriving DecidableEq

namespace Draft

/-- The draft of a class of which only the name is known. -/
def named (namespaceName name : String) : Draft := ⟨.named namespaceName name, false⟩

/-- The draft once the step that begins a scenario has been set up. Whoever finds the draft not
ready before is the one to set it up. -/
def claimScenario (d : Draft) : Draft := { d with scenarioReady := true }

/-- Adds a finished test method to the class. -/
def addMethod (d : Draft) (m : TestMethod) : Draft :=
  { d with testClass.methods := d.testClass.methods ++ [m] }

end Draft
end CrossBrowser
