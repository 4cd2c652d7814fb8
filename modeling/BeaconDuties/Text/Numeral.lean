/-!
Decimal numerals of 64-bit numbers.

* `Numeral.render` writes a number without sign or leading zeros.
* `Numeral.read` reads one or more digits with an optional plus sign before them; leading zeros are
  allowed, blanks and other signs are not. Of several faults the leftmost one is reported.
-/

namespace BeaconDuties.Numeral

/-- Why a text is not the numeral of a 64-bit number. -/
inductive ReadError where
  /-- There is nothing to read. -/
  | empty
  /-- A character is not a decimal digit, or a sign stands alone. -/
  | invalidDigit
  /-- The digits so far already stand for a number of more than 64 bits. -/
  | tooLarge
deriving DecidableEq, Repr

/-- The wording of a reading error. -/
def ReadError.message : ReadError → String
  | empty => "cannot parse integer from empty string"
  | invalidDigit => "invalid digit found in string"
  | tooLarge => "number too large to fit in target type"

/-- The value of a decimal digit. -/
def digitValue? (c : Char) : Option Nat :=
  if '0' ≤ c ∧ c ≤ '9' then some (c.toNat - '0'.toNat) else none

/-- Reads digits after others that stand for `value`. -/
def readDigits (value : Nat) : List Char → Except ReadError Nat
  | [] => .ok value
  | c :: rest =>
    match digitValue? c with
    | none => .error .invalidDigit
    | some digit =>
      let longer := value * 10 + digit
      if longer < UInt64.size then readDigits longer rest else .error .tooLarge

/-- Reads a numeral given as characters. -/
def readChars : List Char → Except ReadError UInt64
  | [] => .error .empty
  | ['+'] => .error .invalidDigit
  | '+' :: digits => (readDigits 0 digits).map UInt64.ofNat
  | digits => (readDigits 0 digits).map UInt64.ofNat

/-- Reads a numeral. -/
def read (text : String) : Except ReadError UInt64 := readChars text.toList

/-- Reads a numeral where the kind of fault does not matter. -/
def read? (text : String) : Option UInt64 := (read text).toOption

/-- Writes a number in decimal digits. -/
def render (n : Nat) : String := String.ofList (Nat.toDigits 10 n)

/-- Writes a 64-bit number in decimal digits. -/
def renderUInt64 (n : UInt64) : String := render n.toNat

end BeaconDuties.Numeral
