import BeaconDuties.Number.Binary64

/-!
Floating-point numbers with a fixed number of decimal places.

The exact value of the number is rounded to the nearest multiple of the last place, ties to the even
one (`Places.digits`), and written with that many digits after the point (`Places.render`). A sign
is written for every negative number, negative zero included.
-/

namespace BeaconDuties.Places

/-- The value in units of the last of `places` decimal places, rounded to the nearest whole
    number. -/
def digits (places mantissa : Nat) (exponent : Int) : Nat :=
  let (num, den) := Binary64.scaled mantissa 1 (-exponent)
  roundDiv (num * Nat.pow 10 places) den

/-- Writes a number of units of the last place. There is at least one place. -/
def renderUnits (places units : Nat) : String :=
  let fraction := Nat.toDigits 10 (units % Nat.pow 10 places)
  let zeros := List.replicate (places - fraction.length) '0'
  String.ofList (Nat.toDigits 10 (units / Nat.pow 10 places) ++ '.' :: zeros ++ fraction)

/-- Writes a floating-point number with `places` decimal places. -/
def render (places : Nat) (x : Binary64) : String :=
  match x.parts with
  | .nan => "NaN"
  | .infinite negative => if negative then "-inf" else "inf"
  | .finite negative mantissa exponent =>
    let text := renderUnits places (digits places mantissa exponent)
    if negative then "-" ++ text else text

end BeaconDuties.Places
