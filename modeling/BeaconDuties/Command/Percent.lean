import BeaconDuties.Text.Hex

/-!
Percent encoding.

A character that may not stand in a part of an address is written byte by byte, as `%` and two
digits (`Percent.encode`). Each part has its own such characters. `Percent.decode` reads the bytes
back.
-/

namespace BeaconDuties.Percent

/-! ## Writing -/

/-- Writes a byte as `%` and two digits. -/
def ofByte (byte : UInt8) : List Char :=
  ['%', (Hex.digit (byte / 16)).toUpper, (Hex.digit (byte % 16)).toUpper]

/-- Writes the given characters, all control characters and all that are not ASCII as `%` and
    digits. -/
def encode (reserved : List Char) (text : List Char) : List Char :=
  text.flatMap fun c =>
    if c.toNat < 32 || 126 < c.toNat || reserved.contains c then
      (String.utf8EncodeChar c).flatMap ofByte
    else [c]

/-- What is encoded in a fragment. -/
def inFragment : List Char := [' ', '"', '<', '>', '\x60']

/-- What is encoded in a path. -/
def inPath : List Char := inFragment ++ ['#', '?', '\x7b', '\x7d']

/-- What is encoded in the name of a user. -/
def inUser : List Char := inPath ++ ['/', ':', ';', '=', '@', '[', '\\', ']', '^', '|']

/-- What is encoded in a query. -/
def inQuery (known : Bool) : List Char :=
  [' ', '"', '#', '<', '>'] ++ if known then ['\''] else []

/-! ## Reading -/

/-- A digit of a number in the given base, which is at most sixteen. -/
def digit? (base : Nat) (c : Char) : Option Nat := do
  let value ← Hex.digitValue? (UInt8.ofNat c.toNat)
  guard (c.toNat < 128 ∧ value.toNat < base)
  return value.toNat

/-- Reads `%` and two digits as the byte that they stand for. -/
def decode : List Char → List UInt8
  | '%' :: a :: b :: rest =>
    match digit? 16 a, digit? 16 b with
    | some high, some low => UInt8.ofNat (high * 16 + low) :: decode rest
    | _, _ => 37 :: decode (a :: b :: rest)
  | c :: rest => String.utf8EncodeChar c ++ decode rest
  | [] => []
termination_by text => text.length

end BeaconDuties.Percent
