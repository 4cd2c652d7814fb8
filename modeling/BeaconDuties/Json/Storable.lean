import BeaconDuties.Json.Value

/-!
Values that can be kept before it is known what they are read as.

Most members of a message are read as what they are, and unknown ones are skipped whatever they
hold. A value whose meaning depends on something further on has to be kept as it is, and then every
part of it counts: its strings must be texts, its numbers must lie in the range of floating-point
numbers, and it must not be nested too deeply (`Json.storable`).
-/

namespace BeaconDuties.Json

/-- Where numbers begin that are nearer to the next power of two than to the largest floating-point
    number. -/
def rangeEnd : Nat := Nat.pow 2 1024 - Nat.pow 2 970

/-- The number in the given digits, whatever stands between them. -/
def digitsOf (cs : List Char) : Nat :=
  (cs.filter Char.isDigit).foldl (fun value c => value * 10 + (c.toNat - '0'.toNat)) 0

/-- A spelled number without its sign, as a whole number times a power of ten. -/
def magnitude (spelling : List Char) : Nat × Int :=
  let mantissa := spelling.takeWhile fun c => c != 'e' && c != 'E'
  let exponent := spelling.dropWhile fun c => c != 'e' && c != 'E'
  let places := (mantissa.dropWhile (· != '.')).countP Char.isDigit
  let power : Int := digitsOf exponent
  (digitsOf mantissa, (if exponent.contains '-' then -power else power) - places)

/-- Whether a number lies in the range of floating-point numbers. -/
def Number.inRange : Number → Bool
  | natural n => n < rangeEnd
  | spelled spelling =>
    let (mantissa, exponent) := magnitude spelling.toList
    if mantissa = 0 then true
    else if 0 ≤ exponent then exponent ≤ 308 && mantissa * Nat.pow 10 exponent.toNat < rangeEnd
    else
      let places := (-exponent).toNat
      (Nat.toDigits 10 mantissa).length ≤ places || mantissa < rangeEnd * Nat.pow 10 places

mutual

/-- Whether a value can be kept, with at most `depth` arrays and objects inside one another. -/
def storable : Json → Nat → Bool
  | number value, _ => value.inRange
  | string text, _ => text.isSome
  | array items, depth => 0 < depth && itemsStorable items (depth - 1)
  | object members, depth => 0 < depth && membersStorable members (depth - 1)
  | null, _ | bool _, _ => true
termination_by structural v => v

/-- Whether all items of an array can be kept. -/
def itemsStorable : List Json → Nat → Bool
  | [], _ => true
  | item :: items, depth => storable item depth && itemsStorable items depth
termination_by structural items => items

/-- Whether all members of an object can be kept. -/
def membersStorable : List (Option String × Json) → Nat → Bool
  | [], _ => true
  | (name, value) :: members, depth =>
    name.isSome && storable value depth && membersStorable members depth
termination_by structural members => members

end

/-- How deep arrays and objects of a document may lie in one another. -/
def depthLimit : Nat := 127

end BeaconDuties.Json
