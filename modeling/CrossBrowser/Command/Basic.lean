import CrossBrowser.Path

/-! The commands of the program. -/
namespace CrossBrowser

/-- What a command that generates files is given in place of the configuration. -/
structure OutputOptions where
  /-- Where generated files go. -/
  directory : Option Path
  /-- The namespace of the generated classes. -/
  namespaceName : Option String
  deriving DecidableEq

/-- A command of the program. -/
inductive Command where
  /-- Generates the tests for all features at a path, and writes them. -/
  | generate (path : Path) (options : OutputOptions)
  /-- Compares the tests for all features at a path with what has been written. -/
  | check (path : Path) (options : OutputOptions)
  /-- Prints the test class for one feature. -/
  | print (file : Path) (namespaceName : Option String)
  /-- Sorts categories into plain ones and those that target browsers. -/
  | classify (categories : List String) (json : Bool)
  /-- Lists the test cases for one feature. -/
  | plan (file : Path) (json : Bool)
  /-- Checks the browsers that the features at a path target against a listing. -/
  | verify (path : Path) (listing : Option Path)
  deriving DecidableEq

/-- What the program is called for. -/
structure Invocation where
  /-- Whether more than the ordinary is to be told. -/
  verbose : Bool
  /-- The file of the configuration, if it is not to be looked for. -/
  config : Option Path
  command : Command
  deriving DecidableEq

end CrossBrowser
