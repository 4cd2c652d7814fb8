import BeaconDuties.Text.Hex

/-!
Byte strings of a fixed size: block roots, public keys, signatures, fork versions, addresses.

* `FixedBytes n` is a byte string together with the proof that it has `n` bytes.
* `FixedBytes.render` is its text, `0x` and lower-case digits.
* `FixedBytes.read?` reads a root as a person may type it: `0x` may be missing and blanks between
  the digits are skipped.
* `FixedBytes.ofMessage?` reads the text of a message member: `0x` may be missing, and the rest must
  be exactly two characters long for each byte. Blanks among these are skipped too, and the bytes
  that they leave over are zero.
-/

namespace BeaconDuties

/-- A byte string of `size` bytes. -/
structure FixedBytes (size : Nat) where
  /-- The bytes, first to last. -/
  bytes : List UInt8
  /-- There are `size` of them. -/
  length_eq : bytes.length = size
deriving DecidableEq

namespace FixedBytes

/-- The given byte, `size` times. -/
def replicate (size : Nat) (byte : UInt8) : FixedBytes size := ⟨List.replicate size byte, by simp⟩

/-- All bytes zero. -/
def zero (size : Nat) : FixedBytes size := replicate size 0

/-- The byte string, if it has the right size. -/
def ofList? (size : Nat) (bytes : List UInt8) : Option (FixedBytes size) :=
  if h : bytes.length = size then some ⟨bytes, h⟩ else none

/-- The first `size` bytes, with zeros after them if there are too few. -/
def padded (size : Nat) (bytes : List UInt8) : FixedBytes size :=
  ⟨bytes.take size ++ List.replicate (size - bytes.length) 0, by simp; omega⟩

/-- The text of a byte string: `0x` and two digits to a byte. -/
def render {size : Nat} (x : FixedBytes size) : String := Hex.prefixed x.bytes

/-- The characters that may stand between digits. -/
def isBlank (byte : UInt8) : Bool := byte == 32 || byte == 9 || byte == 10 || byte == 13

/-- What is left of a text after an optional `0x`. -/
def withoutPrefix (text : List Char) : List Char := (Hex.stripPrefix? text).getD text

/-- Reads a byte string from digits with an optional `0x` before them and blanks among them. -/
def read? (size : Nat) (text : String) : Option (FixedBytes size) := do
  let digits := (Hex.utf8 (withoutPrefix text.toList)).filter (!isBlank ·)
  ofList? size (← (Hex.decodeBytes digits).toOption)

/-- The bytes of all whole pairs of digits, or `none` if something else than a digit occurs. -/
def wholePairs? : List UInt8 → Option (List UInt8)
  | high :: low :: rest => do
    let h ← Hex.digitValue? high
    let l ← Hex.digitValue? low
    return (h * 16 + l) :: (← wholePairs? rest)
  | [single] => (Hex.digitValue? single).map fun _ => []
  | [] => some []

/-- Reads a byte string from the text of a message member. -/
def ofMessage? (size : Nat) (text : String) : Option (FixedBytes size) := do
  let digits := Hex.utf8 (withoutPrefix text.toList)
  guard (digits.length = 2 * size)
  return padded size (← wholePairs? (digits.filter (!isBlank ·)))

instance {size : Nat} : Ord (FixedBytes size) := ⟨compareOn bytes⟩

instance {size : Nat} : Std.TransOrd (FixedBytes size) :=
  inferInstanceAs (Std.TransCmp (compareOn bytes))

instance {size : Nat} : Std.LawfulEqOrd (FixedBytes size) where
  eq_of_compare {a b} h := by
    have : a.bytes = b.bytes := Std.LawfulEqOrd.eq_of_compare (h : compare a.bytes b.bytes = .eq)
    cases a
    cases b
    simp_all

instance {size : Nat} : Inhabited (FixedBytes size) := ⟨zero size⟩

end FixedBytes

/-- The root of a block or state. -/
abbrev Root := FixedBytes 32

instance : Std.TransOrd Root := inferInstanceAs (Std.TransOrd (FixedBytes 32))

/-- The public key of a validator. -/
abbrev PublicKey := FixedBytes 48

/-- A signature, single or aggregated. -/
abbrev Signature := FixedBytes 96

/-- The version that names a fork in the fork schedule. -/
abbrev Version := FixedBytes 4

/-- An account of the execution layer. -/
abbrev Address := FixedBytes 20

/-- The commitment to a blob. -/
abbrev Commitment := FixedBytes 48

end BeaconDuties
