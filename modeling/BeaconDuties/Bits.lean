import BeaconDuties.Text.Hex

/-!
Bit fields and their byte strings.

Bits are packed eight to a byte, the first of them in the lowest place.

* A `BitVector` is packed as it is, so that reading it back gives a whole number of bytes.
* A `BitList` is packed with one more set bit after its last one; this sentinel tells its length.
  A byte string without a set bit in its last byte is not a bit list.
* The text of either is `0x` and the digits of its bytes.
-/

namespace BeaconDuties

/-- Why a text or byte string is not a bit field. -/
inductive BitsError where
  /-- A bit list has no sentinel. -/
  | withoutSentinel
  /-- The text does not start with `0x`. -/
  | missingPrefix
  /-- What follows `0x` is not hexadecimal. -/
  | invalidHex (reason : Hex.DecodeError)
deriving DecidableEq, Repr

/-- The wording of a bit field error. -/
def BitsError.message : BitsError → String
  | withoutSentinel => "bitlist is empty or missing its length sentinel"
  | missingPrefix => "hex string is missing its 0x prefix"
  | invalidHex reason => "invalid hex string: " ++ reason.message

namespace Bits

/-- The number whose binary digits are the given bits, lowest first. -/
def value : List Bool → Nat
  | [] => 0
  | bit :: rest => bit.toNat + 2 * value rest

/-- The byte of up to eight bits, lowest first; the places left over are zero. -/
def byte (bits : List Bool) : UInt8 := UInt8.ofNat (value bits)

/-- The lowest `count` bits of a number, lowest first. -/
def ofNat (n : Nat) : Nat → List Bool
  | 0 => []
  | count + 1 => (n % 2 == 1) :: ofNat (n / 2) count

/-- Packs bits into bytes. The last byte is filled up with zeros. -/
def pack : List Bool → List UInt8
  | [] => []
  | b0 :: b1 :: b2 :: b3 :: b4 :: b5 :: b6 :: b7 :: rest =>
    byte [b0, b1, b2, b3, b4, b5, b6, b7] :: pack rest
  | short => [byte short]

/-- The bits of a byte string, eight to a byte. -/
def unpack : List UInt8 → List Bool
  | [] => []
  | byte :: rest => ofNat byte.toNat 8 ++ unpack rest

/-- The positions of the set bits in ascending order, counted from `start`. -/
def onesFrom (start : Nat) : List Bool → List Nat
  | [] => []
  | true :: rest => start :: onesFrom (start + 1) rest
  | false :: rest => onesFrom (start + 1) rest

/-- The positions of the set bits in ascending order. -/
def ones (bits : List Bool) : List Nat := onesFrom 0 bits

/-- The bits before the last set one, or `none` if no bit is set. -/
def beforeLastOne? : List Bool → Option (List Bool)
  | [] => none
  | bit :: rest =>
    match beforeLastOne? rest with
    | some front => some (bit :: front)
    | none => if bit then some [] else none

/-- Reads a byte string from text that starts with `0x`. -/
def bytesOfText (text : String) : Except BitsError (List UInt8) :=
  match Hex.stripPrefix? text.toList with
  | none => .error .missingPrefix
  | some digits => (Hex.decode digits).mapError .invalidHex

end Bits

/-- A bit field whose length is part of its encoding. -/
structure BitList where
  /-- The bits, first to last. -/
  bits : List Bool
deriving DecidableEq, Repr

namespace BitList

/-- The bytes of a bit list, with its sentinel. -/
def toBytes (x : BitList) : List UInt8 := Bits.pack (x.bits ++ [true])

/-- Reads a bit list from its bytes. The sentinel must be in the last one. -/
def ofBytes (bytes : List UInt8) : Except BitsError BitList :=
  if bytes.getLast?.getD 0 = 0 then .error .withoutSentinel
  else
    match Bits.beforeLastOne? (Bits.unpack bytes) with
    | some bits => .ok ⟨bits⟩
    | none => .error .withoutSentinel

/-- The text of a bit list. -/
def render (x : BitList) : String := Hex.prefixed x.toBytes

/-- Reads a bit list from its text. -/
def read (text : String) : Except BitsError BitList := do ofBytes (← Bits.bytesOfText text)

/-- The number of bits. -/
def length (x : BitList) : Nat := x.bits.length

/-- The positions of the set bits in ascending order. -/
def ones (x : BitList) : List Nat := Bits.ones x.bits

end BitList

/-- A bit field whose length is known from elsewhere. -/
structure BitVector where
  /-- The bits, first to last. -/
  bits : List Bool
deriving DecidableEq, Repr

namespace BitVector

/-- The bytes of a bit vector; the last one is filled up with zeros. -/
def toBytes (x : BitVector) : List UInt8 := Bits.pack x.bits

/-- Reads a bit vector from its bytes, eight bits to each. -/
def ofBytes (bytes : List UInt8) : BitVector := ⟨Bits.unpack bytes⟩

/-- The text of a bit vector. -/
def render (x : BitVector) : String := Hex.prefixed x.toBytes

/-- Reads a bit vector from its text. -/
def read (text : String) : Except BitsError BitVector := do return ofBytes (← Bits.bytesOfText text)

/-- The number of bits. -/
def length (x : BitVector) : Nat := x.bits.length

/-- The positions of the set bits in ascending order. -/
def ones (x : BitVector) : List Nat := Bits.ones x.bits

/-- The number of set bits. -/
def countOnes (x : BitVector) : Nat := x.bits.count true

end BitVector

end BeaconDuties
