/-! Values that have been told apart by kind.

Where a document may hold one of several shapes, its value is first read as a `Datum`, whatever it
is, and then compared with the shapes. -/
namespace CrossBrowser.Document

/-- A value of some kind. -/
inductive Datum where
  | null
  | bool (value : Bool)
  /-- A number that counts: a whole number that is not negative. -/
  | index (value : Nat)
  /-- Any other number. -/
  | number
  | text (value : String)
  | list (items : List Datum)
  | record (entries : List (Datum × Datum))

namespace Datum

/-- The text, if it is one. -/
def text? : Datum → Option String
  | .text value => some value
  | _ => none

/-- The truth value, if it is one. -/
def bool? : Datum → Option Bool
  | .bool value => some value
  | _ => none

/-- The texts of a list, if it is a list of texts. -/
def texts? : Datum → Option (List String)
  | .list items => items.mapM text?
  | _ => none

end Datum
end CrossBrowser.Document
