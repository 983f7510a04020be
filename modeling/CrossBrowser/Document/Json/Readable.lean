import CrossBrowser.Document.Json.Basic
import CrossBrowser.Document.Readable

/-! JSON values as typed values.

Null says that there is none, and nothing else does. A record may be written as an object, or as an
array of its fields in order, of which the last ones may be missing. -/
namespace CrossBrowser.Document.Json

/-- How many levels of nesting a value may have, its own included, to be read without regard to its
shape. The levels above it in a feature count towards the limit of 127 for a whole document. -/
def nestingLimit : Nat := 122

mutual

/-- The value as a datum, of at most so many levels of nesting. None if a string in it is no text,
or a number in it is out of range. -/
def toDatum? (levels : Nat) : Json → Option Datum
  | .null => some .null
  | .bool value => some (.bool value)
  | .number n => if n.isFinite then some .number else none
  | .string text => text.map .text
  | .array items =>
    match levels with
    | 0 => none
    | levels + 1 => (toDatumItems? levels items).map .list
  | .object members =>
    match levels with
    | 0 => none
    | levels + 1 => (toDatumMembers? levels members).map .record

/-- The items as data. -/
def toDatumItems? (levels : Nat) : List Json → Option (List Datum)
  | [] => some []
  | item :: rest => do
    let d ← toDatum? levels item
    let ds ← toDatumItems? levels rest
    return d :: ds

/-- The members as data. -/
def toDatumMembers? (levels : Nat) : List (Option String × Json) → Option (List (Datum × Datum))
  | [] => some []
  | (name, value) :: rest => do
    let name ← name
    let d ← toDatum? levels value
    let ds ← toDatumMembers? levels rest
    return (.text name, d) :: ds

end

/-- The value as a text. -/
def text? : Json → Option String
  | .string text => text
  | _ => none

/-- The members of an object, if all their names are texts. -/
def namedMembers? (members : List (Option String × Json)) : Option (List (String × Json)) :=
  members.mapM fun (name, value) => name.map (·, value)

/-- The known fields of a record. -/
def fields? (strict : Bool) (known : List String) : Json → Option (List (String × Json))
  | .object members => (namedMembers? members).bind (knownEntries? strict known)
  | .array items => if items.length ≤ known.length then some (known.zip items) else none
  | _ => none

instance : Readable Json Option where
  text := text?
  present
    | .null => some none
    | v => some (some v)
  items
    | .array items => some items
    | _ => none
  fields := fields?
  datum := toDatum? nestingLimit

end CrossBrowser.Document.Json
