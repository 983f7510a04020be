/-! JSON values.

A value keeps what a reader of typed records may ask about. Of a number that is the digits it was
written with. A string is a text, unless an escape in it is one half of a pair whose other half is
missing: then it is well formed but no text. -/
namespace CrossBrowser.Document

/-- A number as it was written. -/
structure JsonNumber where
  negative : Bool
  /-- The digits before the point. -/
  whole : List Nat
  /-- The digits after the point. -/
  fraction : List Nat
  /-- Whether the exponent is negative. -/
  exponentNegative : Bool
  /-- The digits of the exponent. -/
  exponent : List Nat
  deriving DecidableEq

/-- A JSON value. The members of an object keep their order and repetitions. -/
inductive Json where
  | null
  | bool (value : Bool)
  | number (value : JsonNumber)
  /-- A string; none if it is no text. -/
  | string (text : Option String)
  | array (items : List Json)
  | object (members : List (Option String × Json))

namespace Json

/-- A string that is this text. -/
def text (s : String) : Json := .string (some s)

/-- The array of these texts. -/
def texts (xs : List String) : Json := .array (xs.map text)

/-- The object with these members. -/
def record (members : List (String × Json)) : Json :=
  .object (members.map fun (name, value) => (some name, value))

/-- A text, or null. -/
def optionalText (s : Option String) : Json := (s.map text).getD .null

end Json

namespace JsonNumber

/-- The largest number of 64 bits. -/
def largestWord : Nat := Nat.pow 2 64 - 1

/-- The number that digits spell, read onto `n` as far as it stays within 64 bits, and the digits
that were left over. -/
def readDigits (n : Nat) : List Nat → Nat × List Nat
  | [] => (n, [])
  | d :: rest => if largestWord < n * 10 + d then (n, d :: rest) else readDigits (n * 10 + d) rest

/-- The number without its point and exponent, as far as it fits into 64 bits, and the power of ten
that it is then to be multiplied by, the exponent left aside. Digits after the point count only if
no digit before them was left over. -/
def significand (x : JsonNumber) : Nat × Int :=
  let (n, unread) := readDigits 0 x.whole
  if unread ≠ [] then (n, unread.length)
  else
    let (n, unread) := readDigits n x.fraction
    (n, (unread.length : Int) - x.fraction.length)

/-- The number that digits spell. -/
def ofDigits (digits : List Nat) : Nat := digits.foldl (fun n d => n * 10 + d) 0

/-- The largest exponent that is worked out. -/
def largestExponent : Nat := Nat.pow 2 31 - 1

/-- Whether the number is within the range of double precision. Its significand is rounded first
and multiplied by a power of ten then; what is divided by one is always within range. -/
def isFinite (x : JsonNumber) : Bool :=
  let (n, shift) := x.significand
  let exponent := ofDigits x.exponent
  if largestExponent < exponent then n == 0 || x.exponentNegative
  else
    let power := if x.exponentNegative then shift - exponent else shift + exponent
    if n = 0 ∨ power < 0 then true
    else if 308 < power then false
    else (Float.ofNat n * Float.ofScientific 1 false power.toNat).isFinite

end JsonNumber
end CrossBrowser.Document
