import CrossBrowser.Document.Datum
import CrossBrowser.Text.Hex

/-! Kinds of scalars.

A scalar that is neither quoted nor tagged may be null, a truth value or a number by the way it is
written; all others are texts. A tag asks for one kind, and it is an error if the scalar is not
written like one. -/
namespace CrossBrowser.Document.Yaml.Scalar

/-- Whether a text says that there is nothing. -/
def isNull (text : String) : Bool := ["null", "Null", "NULL", "~"].contains text

/-- The truth value that a text says. -/
def bool? (text : String) : Option Bool :=
  if ["true", "True", "TRUE"].contains text then some true
  else if ["false", "False", "FALSE"].contains text then some false
  else none

/-! ### Whole numbers -/

/-- The value of a digit to a base of at most sixteen. -/
def digitValue? (base : Nat) (c : Char) : Option Nat :=
  (Text.hexValue? c).filter (· < base)

/-- The number that digits to a base spell, of which there must be some. -/
def digits? (base : Nat) (cs : List Char) : Option Nat :=
  if cs = [] then none
  else cs.foldlM (fun n c => (digitValue? base c).map (n * base + ·)) 0

/-- The sign in front and what follows it: whether it is a minus. -/
def splitSign : List Char → Bool × List Char
  | '+' :: rest => (false, rest)
  | '-' :: rest => (true, rest)
  | cs => (false, cs)

/-- Whether digits, perhaps with a sign, begin with a zero that stands for nothing. Such digits are
a text. -/
def hasIdleZero (cs : List Char) : Bool :=
  match (splitSign cs).2 with
  | '0' :: d :: rest => (d :: rest).all Char.isDigit
  | _ => false

/-- The size of a whole number without its sign, to base ten or to the base that it begins with. -/
def magnitude? : List Char → Option Nat
  | '0' :: 'x' :: rest => digits? 16 rest
  | '0' :: 'o' :: rest => digits? 8 rest
  | '0' :: 'b' :: rest => digits? 2 rest
  | cs => digits? 10 cs

/-- The whole number that a text says: whether it has a minus, and its size. -/
def whole? (text : String) : Option (Bool × Nat) := do
  let cs := text.toList
  if hasIdleZero cs then failure
  let (negative, rest) := splitSign cs
  return (negative, ← magnitude? rest)

/-- Whether a whole number fits into so many bits, of which a minus takes one. -/
def fits (bits : Nat) (negative : Bool) (size : Nat) : Bool :=
  if negative then size ≤ Nat.pow 2 (bits - 1) else size < Nat.pow 2 bits

/-- A whole number as a datum. -/
def ofWhole (negative : Bool) (size : Nat) : Datum := if negative then .number else .index size

/-! ### Other numbers -/

/-- The least number that is beyond the range of double precision once it is rounded. -/
def overflow : Nat := Nat.pow 2 1024 - Nat.pow 2 970

/-- Whether a number with these digits and power of ten is within range. -/
def isFinite (digits : List Nat) (power : Int) : Bool :=
  let digits := digits.dropWhile (· == 0)
  let top := (digits.length : Int) + power
  let n := digits.foldl (fun n d => n * 10 + d) 0
  if digits = [] ∨ top < 300 then true
  else if 310 < top then false
  else n * Nat.pow 10 power.toNat < overflow * Nat.pow 10 (-power).toNat

/-- The values of the digits in front, and what follows them. -/
def spanDigits (cs : List Char) : List Nat × List Char :=
  let (digits, rest) := cs.span Char.isDigit
  (digits.map fun c => c.toNat - '0'.toNat, rest)

/-- The exponent that makes up a text; zero for an empty one. -/
def exponent? : List Char → Option Int
  | [] => some 0
  | e :: rest => do
    if e ≠ 'e' ∧ e ≠ 'E' then failure
    let (negative, rest) := splitSign rest
    let n ← digits? 10 rest
    return if negative then -n else n

/-- Whether a text is a number with digits, perhaps a point, and perhaps an exponent, and within
range. -/
def isDecimal (cs : List Char) : Bool :=
  let (before, rest) := spanDigits (splitSign cs).2
  let (after, rest) := match rest with
    | '.' :: rest => spanDigits rest
    | rest => ([], rest)
  match exponent? rest with
  | some e => !(before ++ after).isEmpty && isFinite (before ++ after) (e - after.length)
  | none => false

/-- Whether a text is a number, infinite and undefined ones included. -/
def isNumber (text : String) : Bool :=
  let unsigned := if text.toList.head? = some '+' then String.ofList (text.toList.drop 1) else text
  [".inf", ".Inf", ".INF"].contains unsigned || ["-.inf", "-.Inf", "-.INF"].contains text ||
    [".nan", ".NaN", ".NAN"].contains text || isDecimal text.toList

/-! ### Scalars -/

/-- A text as a number that is not whole, or else as itself. -/
def ofNumber (text : String) : Datum :=
  if !hasIdleZero text.toList && isNumber text then .number else .text text

/-- The datum that a plain scalar without a tag is. A whole number of more than 64 bits is an error
up to 128 bits, and no whole number beyond. -/
def ofPlain? (text : String) : Option Datum :=
  if text = "" ∨ isNull text then some .null
  else
    match bool? text, whole? text with
    | some b, _ => some (.bool b)
    | none, none => some (ofNumber text)
    | none, some (negative, size) =>
      if fits 64 negative size then some (ofWhole negative size)
      else if fits 128 negative size then none
      else some (ofNumber text)

/-- Whether a tag names a type of the program's own. -/
def isLocal (tag : String) : Bool := tag.toList.head? == some '!'

/-- What the tags of the usual types begin with. -/
def usualTag (name : String) : String := "tag:yaml.org,2002:" ++ name

/-- The datum that a scalar with a tag is. -/
def ofTagged? (tag text : String) : Option Datum :=
  if isLocal tag then none
  else if tag = usualTag "bool" then (bool? text).map .bool
  else if tag = usualTag "int" then
    (whole? text).bind fun (negative, size) =>
      if fits 64 negative size then some (ofWhole negative size) else none
  else if tag = usualTag "float" then if isNumber text then some .number else none
  else if tag = usualTag "null" then if isNull text then some .null else none
  else some (.text text)

/-- The datum that a scalar is. -/
def datum? (tag : Option String) (plain : Bool) (text : String) : Option Datum :=
  match tag with
  | some tag => ofTagged? tag text
  | none => if plain then ofPlain? text else some (.text text)

/-- Whether a scalar says something, where it may say that there is nothing. -/
def present? (tag : Option String) (plain : Bool) (text : String) : Option Bool :=
  if !plain then some true
  else
    match tag with
    | some tag => if tag = usualTag "null" then (if isNull text then some false else none) else some true
    | none => some (text ≠ "" && !isNull text)

end CrossBrowser.Document.Yaml.Scalar
