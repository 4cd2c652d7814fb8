import BeaconDuties.Text.Quoted

/-!
Hexadecimal text of byte strings.

Two lower-case digits are written for each byte; digits of either case are read. Texts are read as
UTF-8 bytes, so that the position of a wrong character counts bytes.

* `Hex.encode` writes bytes, `Hex.prefixed` writes them after `0x`.
* `Hex.decode` reads pairs of digits. An odd number of characters is reported before anything else,
  then the first character that is not a digit.
-/

namespace BeaconDuties.Hex

/-- Why a text is not the hexadecimal form of a byte string. -/
inductive DecodeError where
  /-- The text ends in the middle of a byte. -/
  | oddLength
  /-- The byte at `position` is not a hexadecimal digit. -/
  | invalidCharacter (byte : UInt8) (position : Nat)
deriving DecidableEq, Repr

/-- The wording of a decoding error; a byte is shown as the character of that number. -/
def DecodeError.message : DecodeError → String
  | oddLength => "Odd number of digits"
  | invalidCharacter byte position =>
    "Invalid character " ++ Text.quotedChar (Char.ofNat byte.toNat) ++ " at position "
      ++ toString position

/-- The digit for a number below sixteen. -/
def digit (n : UInt8) : Char :=
  if n < 10 then Char.ofNat ('0'.toNat + n.toNat) else Char.ofNat ('a'.toNat + (n.toNat - 10))

/-- The number that a digit of either case stands for. -/
def digitValue? (byte : UInt8) : Option UInt8 :=
  if 48 ≤ byte ∧ byte ≤ 57 then some (byte - 48)
  else if 97 ≤ byte ∧ byte ≤ 102 then some (byte - 87)
  else if 65 ≤ byte ∧ byte ≤ 70 then some (byte - 55)
  else none

/-- The digits of a byte string, two to a byte. -/
def encodeChars : List UInt8 → List Char
  | [] => []
  | byte :: rest => digit (byte / 16) :: digit (byte % 16) :: encodeChars rest

/-- The hexadecimal text of a byte string. -/
def encode (bytes : List UInt8) : String := String.ofList (encodeChars bytes)

/-- The hexadecimal text of a byte string after `0x`. -/
def prefixed (bytes : List UInt8) : String := String.ofList ('0' :: 'x' :: encodeChars bytes)

/-- The UTF-8 bytes of a text. -/
def utf8 (text : List Char) : List UInt8 := text.flatMap String.utf8EncodeChar

/-- Reads pairs of digits, the first of them at `position`. -/
def decodePairs (position : Nat) : List UInt8 → Except DecodeError (List UInt8)
  | [] => .ok []
  | [_] => .error .oddLength
  | high :: low :: rest =>
    match digitValue? high, digitValue? low with
    | none, _ => .error (.invalidCharacter high position)
    | some _, none => .error (.invalidCharacter low (position + 1))
    | some h, some l => (decodePairs (position + 2) rest).map ((h * 16 + l) :: ·)

/-- Reads a byte string from its hexadecimal text, itself given in UTF-8. -/
def decodeBytes (text : List UInt8) : Except DecodeError (List UInt8) :=
  if text.length % 2 = 1 then .error .oddLength else decodePairs 0 text

/-- Reads a byte string from its hexadecimal text. -/
def decode (text : List Char) : Except DecodeError (List UInt8) := decodeBytes (utf8 text)

/-- What follows a leading `0x`. -/
def stripPrefix? : List Char → Option (List Char)
  | '0' :: 'x' :: digits => some digits
  | _ => none

end BeaconDuties.Hex
