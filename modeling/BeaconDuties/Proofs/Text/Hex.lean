import BeaconDuties.Text.Hex

/-!
Hexadecimal text is read as the bytes for which it is written.

Digits are characters of one byte each, so that text that is written for bytes has the bytes
`Hex.digitBytes` of their digits, two to a byte. Each pair of them gives back its byte.
-/

namespace BeaconDuties.Hex

/-- The byte of the digit for a number below sixteen. -/
def digitByte (n : UInt8) : UInt8 := UInt8.ofNat (digit n).toNat

theorem utf8EncodeChar_digit {n : UInt8} (h : n < 16) :
    String.utf8EncodeChar (digit n) = [digitByte n] := by
  have hall : ∀ k < 16, String.utf8EncodeChar (digit (UInt8.ofNat k)) =
    [digitByte (UInt8.ofNat k)] := by decide
  simpa using hall n.toNat h

theorem digitValue?_digitByte {n : UInt8} (h : n < 16) : digitValue? (digitByte n) = some n := by
  have hall : ∀ k < 16, digitValue? (digitByte (UInt8.ofNat k)) = some (UInt8.ofNat k) := by decide
  simpa using hall n.toNat h

/-- The bytes of the digits of a byte string. -/
def digitBytes : List UInt8 → List UInt8
  | [] => []
  | byte :: rest => digitByte (byte / 16) :: digitByte (byte % 16) :: digitBytes rest

/-- The upper half of a byte is a digit. -/
theorem div_lt {byte : UInt8} : byte / 16 < 16 := by
  rw [UInt8.lt_iff_toNat_lt, UInt8.toNat_div]
  have hbyte := byte.toNat_lt
  change byte.toNat / 16 < 16
  omega

/-- The lower half of a byte is a digit. -/
theorem mod_lt {byte : UInt8} : byte % 16 < 16 := by
  rw [UInt8.lt_iff_toNat_lt, UInt8.toNat_mod]
  exact Nat.mod_lt _ (by decide)

/-- A byte is made of its halves. -/
theorem div_mul_add_mod {byte : UInt8} : byte / 16 * 16 + byte % 16 = byte := by
  apply UInt8.toNat.inj
  have hbyte := byte.toNat_lt
  rw [UInt8.toNat_add, UInt8.toNat_mul, UInt8.toNat_div, UInt8.toNat_mod]
  change (byte.toNat / 16 * 16 % 256 + byte.toNat % 16) % 256 = byte.toNat
  omega

theorem utf8_encodeChars : ∀ {bytes : List UInt8}, utf8 (encodeChars bytes) = digitBytes bytes
  | [] => rfl
  | byte :: rest => by
    rw [encodeChars, utf8, List.flatMap_cons, List.flatMap_cons, utf8EncodeChar_digit div_lt,
      utf8EncodeChar_digit mod_lt, ← utf8, utf8_encodeChars]
    rfl

theorem length_digitBytes : ∀ {bytes : List UInt8}, (digitBytes bytes).length = 2 * bytes.length
  | [] => rfl
  | byte :: rest => by
    rw [digitBytes, List.length_cons, List.length_cons, List.length_cons, length_digitBytes]
    omega

theorem decodePairs_digitBytes : ∀ {bytes : List UInt8} {position : Nat},
    decodePairs position (digitBytes bytes) = .ok bytes
  | [], _ => rfl
  | byte :: rest, position => by
    rw [digitBytes, decodePairs, digitValue?_digitByte div_lt, digitValue?_digitByte mod_lt]
    dsimp only
    rw [decodePairs_digitBytes, div_mul_add_mod]
    rfl

theorem decode_encodeChars (bytes : List UInt8) : decode (encodeChars bytes) = .ok bytes := by
  rw [decode, utf8_encodeChars, decodeBytes, length_digitBytes, if_neg (by omega),
    decodePairs_digitBytes]

end BeaconDuties.Hex
