import BeaconDuties.Json.Value
import BeaconDuties.Bits
import BeaconDuties.Bytes

/-!
Reading the parts of a message.

A structure is an object or, in short, an array of its fields in their order. Members with unknown
names are ignored, but a known name may occur only once (`Json.fields?`). A whole number is a number
or the string of its digits (`Json.uint64?`).

Every reader here answers `none` for a value of the wrong form.
-/

namespace BeaconDuties.Json

/-- The fields that were found, by name. -/
structure Fields where
  /-- Each name occurs once. -/
  members : List (String × Json)

/-- The members of an object, if all names are texts. -/
def namedMembers? : List (Option String × Json) → Option (List (String × Json))
  | [] => some []
  | (some name, value) :: rest => (namedMembers? rest).map ((name, value) :: ·)
  | (none, _) :: _ => none

/-- The fields with the given names. -/
def fields? (names : List String) : Json → Option Fields
  | .object members => do
    let known := (← namedMembers? members).filter fun member => names.contains member.1
    guard (known.map Prod.fst).Nodup
    return ⟨known⟩
  | .array items => if items.length ≤ names.length then some ⟨names.zip items⟩ else none
  | _ => none

/-- The value of a field, if it was found. -/
def Fields.get? (fields : Fields) (name : String) : Option Json := fields.members.lookup name

/-- Reads a field that must be there. -/
def Fields.read? {α : Type} (fields : Fields) (name : String) (read : Json → Option α) :
    Option α := do read (← fields.get? name)

/-- Reads a field that stands for `default` if it is missing. -/
def Fields.readOr? {α : Type} (fields : Fields) (name : String) (default : α)
    (read : Json → Option α) : Option α :=
  match fields.get? name with
  | some value => read value
  | none => some default

/-- A text. -/
def text? : Json → Option String
  | .string text => text
  | _ => none

/-- A truth value. -/
def bool? : Json → Option Bool
  | .bool value => some value
  | _ => none

/-- A 64-bit number, as digits alone or as the string of them. -/
def uint64? : Json → Option UInt64
  | .number (.natural n) => if n < UInt64.size then some (UInt64.ofNat n) else none
  | .string (some text) => Numeral.read? text
  | _ => none

/-- A list whose items are all read by `read`. -/
def list? {α : Type} (read : Json → Option α) : Json → Option (List α)
  | .array items => items.mapM read
  | _ => none

/-- A byte string of a fixed size. -/
def bytes? (size : Nat) (value : Json) : Option (FixedBytes size) := do
  FixedBytes.ofMessage? size (← value.text?)

/-- A bit list. -/
def bitList? (value : Json) : Option BitList := do (BitList.read (← value.text?)).toOption

/-- A bit vector. -/
def bitVector? (value : Json) : Option BitVector := do (BitVector.read (← value.text?)).toOption

/-- The value of a byte string. -/
def bytes {size : Nat} (x : FixedBytes size) : Json := text x.render

end BeaconDuties.Json
