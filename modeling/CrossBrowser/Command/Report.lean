import CrossBrowser.Browser.Identifier
import CrossBrowser.Browser.Target
import CrossBrowser.CSharp.Attribute
import CrossBrowser.Document.Json.Writer
import CrossBrowser.Encoding.TestMethod
import CrossBrowser.Error
import CrossBrowser.TestClass

/-! What commands print. -/
namespace CrossBrowser
open Document

/-- What a command prints, and what it fails with, if it does. -/
structure Report where
  text : String
  error? : Option Error

namespace Report

/-- The report of a command that only prints. -/
def printed (text : String) : Report := ⟨text, none⟩

/-- The report of a command that only fails. -/
def failed (e : Error) : Report := ⟨"", some e⟩

/-- A report with a text printed before. -/
def after (text : String) (r : Report) : Report := { r with text := text ++ r.text }

/-- The report on a result that may not be there. -/
def on {α : Type} (result : Except Error α) (report : α → Report) : Report :=
  match result with
  | .ok a => report a
  | .error e => failed e

end Report

namespace Output

/-- Lines of text, each ended. -/
def linesOf (lines : List String) : String := String.join (lines.map (· ++ "\n"))

/-- The width of the first column of a status line. -/
def statusWidth : Nat := 10

/-- A line that tells a status of something. -/
def statusLine (status message : String) : String :=
  String.ofList (List.replicate (statusWidth - status.length) ' ') ++ status ++ " " ++ message

/-! ### Categories -/

/-- The lines that show sorted categories. -/
def classificationLines (c : Classified) : List String :=
  "plain:" :: c.plain.map ("  " ++ ·) ++
    "browsers:" :: c.browsers.map fun id => s!"  {id} => {browserLabel id}"

/-- Sorted categories as JSON. -/
def classificationJson (c : Classified) : Json :=
  .record
    [("plain", .texts c.plain),
      ("browsers", .array (c.browsers.map fun id =>
        .record [("id", .text id), ("label", .text (browserLabel id))]))]

/-! ### Plans -/

/-- An argument in short. -/
def argumentText : Literal → String
  | .null => "null"
  | .text value => value
  | .texts values => "[" ++ ", ".intercalate values ++ "]"

/-- The line that shows a test case of a method. -/
def caseLine (m : TestMethod) (c : TestCase) : String :=
  let arguments := ", ".intercalate (c.arguments.map argumentText)
  s!"    - {c.name.getD m.title} [{arguments}]" ++ if c.isIgnored then " (ignored)" else ""

/-- The lines that show a method. One without cases is a case of its own. -/
def methodLines (m : TestMethod) : List String :=
  s!"  {m.identifier}" ::
    if m.cases.isEmpty then [s!"    - {m.title}"] else m.cases.map (caseLine m)

/-- The lines that show a class. -/
def planLines (c : TestClass) : List String :=
  s!"{c.name} ({c.totalCases} test case(s))" :: c.methods.flatMap methodLines

/-- The lines that show the attributes of all test cases of a class. -/
def attributeLines (c : TestClass) : List String :=
  c.methods.flatMap fun m => m.cases.map CSharp.caseAttribute

/-- The methods of a class as JSON. -/
def planJson (c : TestClass) : Json := .array (c.methods.map TestMethod.toJson)

end Output
end CrossBrowser
