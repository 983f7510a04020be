/-! Test cases: single invocations of a test method, with the arguments they pass. -/
namespace CrossBrowser

/-- A value passed as an argument. -/
inductive Literal where
  /-- No value. -/
  | null
  | text (value : String)
  | texts (values : List String)
  deriving DecidableEq

/-- What a test case was made from. -/
inductive Origin where
  /-- An example row, on no browser in particular. -/
  | row
  /-- A browser, without an example row. -/
  | browser
  /-- A browser and an example row. -/
  | browserRow
  deriving DecidableEq

/-- One invocation of a test method. -/
structure TestCase where
  arguments : List Literal
  /-- Why the case does not run, if it does not. -/
  ignoreReason : Option String
  category : Option String
  name : Option String
  origin : Origin
  deriving DecidableEq

/-- Whether the case does not run. -/
def TestCase.isIgnored (c : TestCase) : Bool := c.ignoreReason.isSome

end CrossBrowser
