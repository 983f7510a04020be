import CrossBrowser.Document.Readable
import CrossBrowser.Feature.Basic

/-! Features as documents hold them.

Everything but the titles may be left out. A row is a list of its cells, or a record with its cells,
its tags and whether it is ignored. -/
namespace CrossBrowser
open Document Readable

/-- The fields of a row that is written as a record, in order. Data that count may stand for
them. -/
def ExampleRow.fieldNames : List String := ["cells", "tags", "ignored"]

namespace ExampleRow

/-- The name of the field that a key stands for; empty for an unknown field. None if it is no
key. -/
def fieldName? : Datum → Option String
  | .text name => some name
  | .index n => some (fieldNames.getD n "")
  | _ => none

/-- The tags of a row, which may say that there are none. -/
def tags? : Datum → Option (List String)
  | .null => some []
  | d => d.texts?

/-- The row that a record is. -/
def ofEntries? (entries : List (Datum × Datum)) : Option ExampleRow := do
  let named ← entries.mapM fun (key, value) => (fieldName? key).map (·, value)
  let fields ← knownEntries? false fieldNames named
  let cells ← required fields "cells" Datum.texts?
  let tags ← field fields "tags" [] tags?
  let ignored ← field fields "ignored" false Datum.bool?
  return ⟨cells, tags, ignored⟩

/-- The row that a datum is. -/
def ofDatum? : Datum → Option ExampleRow
  | .list items => (items.mapM Datum.text?).map ofCells
  | .record entries => ofEntries? entries
  | _ => none

end ExampleRow

section
variable {ν : Type} {m : Type → Type} [Monad m] [MonadExceptOf Unit m] [Readable ν m]

/-- Reads a row. -/
def ExampleRow.read (v : ν) : m ExampleRow := do
  match ExampleRow.ofDatum? (← datum v) with
  | some row => return row
  | none => throwThe Unit ()

/-- Reads a table of examples. -/
def ExampleTable.read (v : ν) : m ExampleTable := do
  let fields ← fields false ["columns", "rows"] v
  let columns ← field fields "columns" [] texts
  let rows ← field fields "rows" [] (list ExampleRow.read)
  return ⟨columns, rows⟩

/-- Reads a scenario. -/
def Scenario.read (v : ν) : m Scenario := do
  let fields ← fields false ["title", "tags", "examples"] v
  let title ← required fields "title" text
  let tags ← field fields "tags" [] texts
  let examples ← field fields "examples" none (optional ExampleTable.read)
  return ⟨title, tags, examples⟩

/-- Reads a feature. -/
def Feature.read (v : ν) : m Feature := do
  let fields ← fields false ["title", "description", "tags", "scenarios"] v
  let title ← required fields "title" text
  let description ← field fields "description" none (optional text)
  let tags ← field fields "tags" [] texts
  let scenarios ← field fields "scenarios" [] (list Scenario.read)
  return ⟨title, description, tags, scenarios⟩

end
end CrossBrowser
