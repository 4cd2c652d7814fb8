import BeaconDuties.Text.Numeral
import BeaconDuties.Number.Shortest

/-!
JSON values.

Object members keep their order and may repeat a name. A number written with digits alone is kept as
a natural number, any other number by its spelling, so that no digit is lost. A string is a text,
unless it holds half of a surrogate pair: such a string is no text, and nothing but its presence is
known about it.

`Json.quantity`, `Json.natural`, `Json.real`, `Json.record` and `Json.optionalMember` build the
values that messages and reports are made of.
-/

namespace BeaconDuties

/-- A number as it is written. -/
inductive Json.Number where
  /-- Digits alone. -/
  | natural (n : Nat)
  /-- A number with a sign, a fraction or an exponent. -/
  | spelled (spelling : String)
deriving DecidableEq, Repr

/-- A JSON value. -/
inductive Json where
  | null
  | bool (value : Bool)
  | number (value : Json.Number)
  /-- A string; `none` if it holds half of a surrogate pair. -/
  | string (text : Option String)
  | array (items : List Json)
  /-- Members in the order in which they are written. -/
  | object (members : List (Option String × Json))
deriving Repr

namespace Json

/-- A string that is a text. -/
def text (value : String) : Json := .string (some value)

/-- A natural number written with digits alone. -/
def natural (n : Nat) : Json := .number (.natural n)

/-- A 64-bit number written as a string of digits, as messages write it. -/
def quantity (n : UInt64) : Json := text (Numeral.renderUInt64 n)

/-- A 64-bit number written with digits alone, as reports write it. -/
def count (n : UInt64) : Json := natural n.toNat

/-- A floating-point number in its shortest form. One that is not finite has no spelling. -/
def real (x : Binary64) : Json :=
  match Shortest.render? x with
  | some spelling => .number (.spelled spelling)
  | none => .null

/-- An object with the given members. -/
def record (members : List (String × Json)) : Json :=
  .object (members.map fun (name, value) => (some name, value))

/-- A member that is left out if there is no value for it. -/
def optionalMember (name : String) : Option Json → List (String × Json)
  | none => []
  | some value => [(name, value)]

end Json

end BeaconDuties
