/-!
Floating-point numbers of 64 bits, as roundings of exact quotients.

Scores and percentages are floating-point numbers, so their last digit depends on where each step is
rounded. Here a number is its bit pattern, and every operation computes an exact quotient of natural
numbers and rounds it once to the nearest representable number, ties to the even one.

* `Binary64.parts` tells what a bit pattern stands for.
* `Binary64.ofRatio` is the number nearest to a quotient.
* `Binary64.ofNat`, `mul`, `div` and `add` round a whole number, product, quotient and sum. They are
  meant for numbers that are finite and not negative, which scores and percentages are, and take any
  other number as its absolute value, or as zero if it is not finite.
-/

namespace BeaconDuties

/-- The nearest whole number to `num / den`; of two equally near ones the even one. -/
def roundDiv (num den : Nat) : Nat :=
  let quotient := num / den
  let twice := 2 * (num % den)
  if twice < den ∨ (twice = den ∧ quotient % 2 = 0) then quotient else quotient + 1

/-- A floating-point number of 64 bits. -/
structure Binary64 where
  /-- The bit pattern. -/
  bits : UInt64
deriving DecidableEq, Repr

namespace Binary64

/-- What a bit pattern stands for. -/
inductive Parts where
  /-- Not a number. -/
  | nan
  /-- Beyond all finite numbers, on either side. -/
  | infinite (negative : Bool)
  /-- The number `mantissa · 2 ^ exponent`, or the negative of it. -/
  | finite (negative : Bool) (mantissa : Nat) (exponent : Int)
deriving DecidableEq, Repr

/-- Takes a bit pattern apart. -/
def parts (x : Binary64) : Parts :=
  let n := x.bits.toNat
  let negative := decide (Nat.pow 2 63 ≤ n)
  let field : Nat := n / Nat.pow 2 52 % Nat.pow 2 11
  let fraction : Nat := n % Nat.pow 2 52
  if field = 2047 then if fraction = 0 then .infinite negative else .nan
  else if field = 0 then .finite negative fraction (-1074)
  else .finite negative (fraction + Nat.pow 2 52) ((field : Int) - 1075)

/-- The positive quotient `num / den · 2 ^ -e` as a quotient of whole numbers. -/
def scaled (num den : Nat) (e : Int) : Nat × Nat :=
  if 0 ≤ e then (num, den * Nat.pow 2 e.toNat) else (num * Nat.pow 2 (-e).toNat, den)

/-- The exponent `k` with `2 ^ k ≤ num / den < 2 ^ (k + 1)`, for positive `num` and `den`. -/
def log2Ratio (num den : Nat) : Int :=
  let k : Int := (num.log2 : Int) - den.log2
  let (n, d) := scaled num den k
  if d ≤ n then k else k - 1

/-- The number nearest to `num / den`, for positive `den`. -/
def ofRatio (num den : Nat) : Binary64 :=
  if num = 0 then ⟨0⟩
  else
    let e : Int := max (-1074) (log2Ratio num den - 52)
    let (n, d) := scaled num den e
    let pattern := (e + 1074).toNat * Nat.pow 2 52 + roundDiv n d
    ⟨UInt64.ofNat (min pattern (2047 * Nat.pow 2 52))⟩

/-- The absolute value of a finite number as a quotient of whole numbers. -/
def ratio (x : Binary64) : Nat × Nat :=
  match x.parts with
  | .finite _ mantissa exponent => scaled mantissa 1 (-exponent)
  | _ => (0, 1)

/-- Zero. -/
def zero : Binary64 := ⟨0⟩

/-- The number nearest to a whole number. -/
def ofNat (n : Nat) : Binary64 := ofRatio n 1

/-- The rounded product. -/
def mul (x y : Binary64) : Binary64 :=
  let (a, b) := x.ratio
  let (c, d) := y.ratio
  ofRatio (a * c) (b * d)

/-- The rounded quotient, for a divisor that is not zero. -/
def div (x y : Binary64) : Binary64 :=
  let (a, b) := x.ratio
  let (c, d) := y.ratio
  ofRatio (a * d) (b * c)

/-- The rounded sum. -/
def add (x y : Binary64) : Binary64 :=
  let (a, b) := x.ratio
  let (c, d) := y.ratio
  ofRatio (a * d + c * b) (b * d)

/-- The sum of a list, rounded after each addition from the left. -/
def sum (xs : List Binary64) : Binary64 := xs.foldl add zero

end Binary64

end BeaconDuties
