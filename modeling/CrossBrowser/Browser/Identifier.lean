import CrossBrowser.Text.Blank

/-! Browser identifiers.

An identifier lists up to four fields, `name,version,os,osVersion`; blanks around a field do not
matter and a blank field says nothing. It can be read by position, as a `Browser`, or shown as a
label, which drops the blank fields and the positions with them. -/
namespace CrossBrowser

/-- The number of fields an identifier can use. Those after them are ignored. -/
def browserFieldCount : Nat := 4

/-- The fields of an identifier, in order, without the blanks around them. -/
def browserFields (id : String) : List String :=
  ((id.toList.splitOn ',').take browserFieldCount).map fun field =>
    Text.trim (String.ofList field)

/-- The label of an identifier: its fields that say something, separated by spaces. -/
def browserLabel (id : String) : String :=
  " ".intercalate ((browserFields id).filter (· ≠ ""))

/-- A browser to run on. What is not given can be anything. -/
structure Browser where
  name : String
  version : Option String
  os : Option String
  osVersion : Option String
  deriving DecidableEq

namespace Browser

/-- What a field says: nothing when it is empty. -/
def ofField (field : String) : Option String := if field = "" then none else some field

/-- What the field at a position says. -/
def fieldAt (fields : List String) (position : Nat) : Option String :=
  fields[position]?.bind ofField

/-- The browser an identifier names, field by field; none when it gives no name. -/
def ofId? (id : String) : Option Browser :=
  let fields := browserFields id
  (fieldAt fields 0).map fun name =>
    { name, version := fieldAt fields 1, os := fieldAt fields 2, osVersion := fieldAt fields 3 }

/-- What is given about the browser, separated by spaces. -/
def label (b : Browser) : String :=
  " ".intercalate ([some b.name, b.version, b.os, b.osVersion].filterMap (·))

/-- The identifier that names exactly this browser, with an empty field for what is not given. -/
def toId (b : Browser) : String :=
  ",".intercalate [b.name, b.version.getD "", b.os.getD "", b.osVersion.getD ""]

end Browser
end CrossBrowser
