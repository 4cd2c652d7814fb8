import BeaconDuties.Number.Binary64

/-!
The shortest decimal that reads back as a given floating-point number.

Every floating-point number is the nearest one for all decimals in an interval around it. Among the
decimals in this interval those with the fewest digits are wanted, and of these the one nearest to
the number itself (`Shortest.decimal`). On the grid of decimals with a given number of digits only
the two neighbours of the number need to be looked at (`Shortest.onGrid?`).

`Shortest.render` lays the digits out: positional while the point falls at most sixteen digits after
the first digit or at most five places before it, with an exponent and its sign beyond; a whole
number keeps one zero after its point.
-/

namespace BeaconDuties.Shortest

/-- The decimal `digits · 10 ^ exponent`. -/
structure Decimal where
  /-- The digits as a whole number. -/
  digits : Nat
  /-- The power of ten that they count. -/
  exponent : Int
deriving DecidableEq, Repr

/-- The quotient `num / den · 10 ^ -e` as a quotient of whole numbers. -/
def scaled (num den : Nat) (e : Int) : Nat × Nat :=
  if 0 ≤ e then (num, den * Nat.pow 10 e.toNat) else (num * Nat.pow 10 (-e).toNat, den)

/-- The exponent `k` with `10 ^ k ≤ num / den < 10 ^ (k + 1)`, for positive `num` and `den`. -/
def log10Ratio (num den : Nat) : Int :=
  let k : Int := ((Nat.toDigits 10 num).length : Int) - (Nat.toDigits 10 den).length
  let (n, d) := scaled num den k
  if d ≤ n then k else k - 1

/-- The decimals that read back as `mantissa · 2 ^ exponent`: the interval from `low` to `high` in
    quarters of the unit `2 ^ exponent`, ends included if the mantissa is even. Below a power of two
    the numbers lie twice as close. -/
structure Interval where
  low : Nat
  value : Nat
  high : Nat
  closed : Bool
  exponent : Int

/-- The interval of a positive finite number. -/
def Interval.of (mantissa : Nat) (exponent : Int) : Interval where
  low := if mantissa = Nat.pow 2 52 ∧ -1074 < exponent then 4 * mantissa - 1 else 4 * mantissa - 2
  value := 4 * mantissa
  high := 4 * mantissa + 2
  closed := mantissa % 2 == 0
  exponent := exponent - 2

/-- Whether the decimal lies in the interval. -/
def Interval.contains (i : Interval) (x : Decimal) : Bool :=
  let (n, d) := scaled x.digits 1 (-x.exponent)
  let (p, q) := Binary64.scaled 1 1 (-i.exponent)
  let point := n * q
  let unit := d * p
  if i.closed then i.low * unit ≤ point && point ≤ i.high * unit
  else i.low * unit < point && point < i.high * unit

/-- The wanted decimal among those that count powers `10 ^ e`, if one of them is in the interval:
    one of the two neighbours of the value, the nearer if both will do, the even one of a tie. -/
def Interval.onGrid? (i : Interval) (e : Int) : Option Decimal :=
  let (p, q) := Binary64.scaled i.value 1 (-i.exponent)
  let (n, d) := scaled p q e
  let below : Decimal := ⟨n / d, e⟩
  let above : Decimal := ⟨n / d + 1, e⟩
  match i.contains below, i.contains above with
  | true, true => some ⟨roundDiv n d, e⟩
  | true, false => some below
  | false, true => some above
  | false, false => none

/-- Tries grids of one digit more each time, at most `fuel` of them, the first counting `10 ^ e`. -/
def Interval.search (i : Interval) : Nat → Int → Decimal
  | 0, e => ⟨0, e⟩
  | fuel + 1, e => (i.onGrid? e).getD (i.search fuel (e - 1))

/-- The shortest decimal that reads back as `mantissa · 2 ^ exponent`. Seventeen digits tell any two
    floating-point numbers apart, so that the search ends. -/
def decimal (mantissa : Nat) (exponent : Int) : Decimal :=
  let (num, den) := Binary64.scaled mantissa 1 (-exponent)
  (Interval.of mantissa exponent).search 18 (log10Ratio num den)

/-- Drops zeros at the end of the digits, at most `fuel` of them. -/
def Decimal.trim : Nat → Decimal → Decimal
  | 0, x => x
  | fuel + 1, x =>
    if x.digits % 10 = 0 ∧ x.digits ≠ 0 then trim fuel ⟨x.digits / 10, x.exponent + 1⟩ else x

/-- Writes an exponent with its sign. -/
def exponentText (e : Int) : List Char :=
  'e' :: (if e < 0 then '-' else '+') :: Nat.toDigits 10 e.natAbs

/-- Lays out a positive decimal. -/
def Decimal.render (x : Decimal) : String :=
  let digits := Nat.toDigits 10 x.digits
  let point : Int := digits.length + x.exponent
  let zeros (count : Int) : List Char := List.replicate count.toNat '0'
  let chars : List Char :=
    if 0 ≤ x.exponent ∧ point ≤ 16 then digits ++ zeros x.exponent ++ ['.', '0']
    else if 0 < point ∧ point ≤ 16 then
      digits.take point.toNat ++ '.' :: digits.drop point.toNat
    else if -5 < point ∧ point ≤ 0 then '0' :: '.' :: zeros (-point) ++ digits
    else
      let tail := if digits.length = 1 then [] else '.' :: digits.tail
      digits.take 1 ++ tail ++ exponentText (point - 1)
  String.ofList chars

/-- Writes a floating-point number, or `none` for one that is not finite. -/
def render? (x : Binary64) : Option String :=
  match x.parts with
  | .finite negative mantissa exponent =>
    let text := if mantissa = 0 then "0.0" else ((decimal mantissa exponent).trim 18).render
    some (if negative then "-" ++ text else text)
  | _ => none

end BeaconDuties.Shortest
