import CrossBrowser.Browser.Target
import CrossBrowser.TestCase

/-! Test methods under construction.

A method keeps its test cases in order. Cases made from rows alone are only ever appended; a case
made for a browser takes the place of an earlier one with the same arguments. The browsers that a
method targets are recorded in its metadata, where the first value under a key stays. -/
namespace CrossBrowser

/-- Attributes without arguments. -/
inductive Marker where
  | testFixture
  | testFixtureSetUp
  | test
  | tearDown
  deriving DecidableEq

/-- A parameter of a method. -/
structure Parameter where
  type : String
  name : String
  default : Option Literal
  deriving DecidableEq

/-- The statements that generated methods are made of. -/
inductive Statement where
  /-- Clears the field that holds the current browser. -/
  | resetBrowser
  /-- Copies a parameter into the field that holds the current browser. -/
  | assignBrowser (parameter : String)
  /-- Calls the helper that starts a browser session. -/
  | registerHost
  /-- Builds what starts the browser sessions. -/
  | configureRemote
  /-- Starts a browser session and registers it. -/
  | createHost
  /-- Ends the browser session, if there is one. -/
  | disposeHost
  /-- Declares what is known of the running scenario. -/
  | createScenarioInfo (title : String) (tags : List String)
  /-- Calls the hook that begins a scenario. -/
  | initializeScenario
  deriving DecidableEq

/-! ### Metadata -/

/-- Notes about a method, in the order they were taken. -/
structure Metadata where
  entries : List (String × String)
  deriving DecidableEq

namespace Metadata

def empty : Metadata := ⟨[]⟩

/-- Whether something is noted under the key. -/
def contains (m : Metadata) (key : String) : Bool := m.entries.any (·.1 == key)

/-- What is noted under the key. -/
def get? (m : Metadata) (key : String) : Option String := m.entries.lookup key

/-- Notes a value, unless the key has one. -/
def insertIfAbsent (m : Metadata) (key value : String) : Metadata :=
  if m.contains key then m else ⟨m.entries ++ [(key, value)]⟩

/-- The values noted under keys that target a browser, in order. -/
def browsers (m : Metadata) : List String :=
  (m.entries.filter fun entry => targetsBrowser entry.1).map (·.2)

end Metadata

/-! ### Methods -/

/-- A method that tests one scenario. -/
structure TestMethod where
  identifier : String
  description : Option String
  markers : List Marker
  categories : List String
  parameters : List Parameter
  statements : List Statement
  cases : List TestCase
  metadata : Metadata
  deriving DecidableEq

namespace TestMethod

/-- A method of which only the identifier is known. -/
def named (identifier : String) : TestMethod :=
  { identifier, description := none, markers := [], categories := [], parameters := [],
    statements := [], cases := [], metadata := .empty }

/-- The description, or else the identifier. -/
def title (m : TestMethod) : String := m.description.getD m.identifier

/-- Whether a case made for a browser takes the place of `old`. -/
def supersedes (new old : TestCase) : Bool :=
  old.origin != .row && old.arguments == new.arguments

/-- Puts a case in the place of the first one it supersedes, or else at the end. -/
def replaceOrAppend (new : TestCase) : List TestCase → List TestCase
  | [] => [new]
  | old :: rest => if supersedes new old then new :: rest else old :: replaceOrAppend new rest

/-- Adds a case to a list of cases: at the end if it was made from a row alone. -/
def addCase (cases : List TestCase) (new : TestCase) : List TestCase :=
  if new.origin = .row then cases ++ [new] else replaceOrAppend new cases

/-- Adds a case to the method. -/
def pushCase (m : TestMethod) (new : TestCase) : TestMethod :=
  { m with cases := addCase m.cases new }

/-- The method without its cases of one origin. -/
def removeCases (m : TestMethod) (origin : Origin) : TestMethod :=
  { m with cases := m.cases.filter (·.origin ≠ origin) }

/-- The number of cases of one origin. -/
def countCases (m : TestMethod) (origin : Origin) : Nat :=
  (m.cases.filter (·.origin = origin)).length

/-- Adds a marker, unless the method has it. -/
def addMarker (m : TestMethod) (marker : Marker) : TestMethod :=
  if marker ∈ m.markers then m else { m with markers := m.markers ++ [marker] }

end TestMethod
end CrossBrowser
