import CrossBrowser.Document.Datum

/-! What a document format offers to a reader of typed values.

A format says how its values are read as texts, lists and records, and what counts as an absent
value. Reading may fail, and a format may have to keep count of something while it goes on: both
are up to `m`. -/
namespace CrossBrowser.Document

/-- How the values `ν` of a document format are read. -/
class Readable (ν : Type) (m : Type → Type) where
  /-- The value as a text. -/
  text : ν → m String
  /-- The value, or none if it says that there is none. -/
  present : ν → m (Option ν)
  /-- The items of a list. -/
  items : ν → m (List ν)
  /-- The fields of a record that are among the known ones, each at most once. Whether others may
  be there is for the first argument to say. -/
  fields : Bool → List String → ν → m (List (String × ν))
  /-- The value, whatever it is. -/
  datum : ν → m Datum

namespace Readable
variable {ν : Type} {m : Type → Type} [Monad m] [Readable ν m]

/-- Reads each element of a list with `read`. -/
def each {α β : Type} (read : α → m β) : List α → m (List β)
  | [] => return []
  | x :: rest => do
    let y ← read x
    let ys ← each read rest
    return y :: ys

/-- The items of a list, each read with `read`. -/
def list {α : Type} (read : ν → m α) (v : ν) : m (List α) := do each read (← items v)

/-- The texts of a list. -/
def texts (v : ν) : m (List String) := list text v

/-- The value read with `read`, or none if it says that there is none. -/
def optional {α : Type} (read : ν → m α) (v : ν) : m (Option α) := do
  match ← (present v : m (Option ν)) with
  | none => return none
  | some v => return some (← read v)

/-- The field of a name, read with `read`, or `default` if the record has no such field. -/
def field {α : Type} (fields : List (String × ν)) (name : String) (default : α) (read : ν → m α) :
    m α :=
  match fields.lookup name with
  | none => return default
  | some v => read v

/-- The field of a name, read with `read`. A record without such a field cannot be read. -/
def required {α : Type} [MonadExceptOf Unit m] (fields : List (String × ν)) (name : String)
    (read : ν → m α) : m α :=
  match fields.lookup name with
  | none => throwThe Unit ()
  | some v => read v

end Readable

/-- Entries without those of other names than the known ones; none if a known name repeats, or if
there are other names and `strict` is set. -/
def knownEntries? {α : Type} (strict : Bool) (known : List String) :
    List (String × α) → Option (List (String × α))
  | [] => some []
  | (name, value) :: rest =>
    if name ∈ known then
      if rest.any (·.1 == name) then none
      else (knownEntries? strict known rest).map ((name, value) :: ·)
    else if strict then none
    else knownEntries? strict known rest

end CrossBrowser.Document
