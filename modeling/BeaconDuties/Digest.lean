import BeaconDuties.Bytes

/-!
The digest SHA-256 of a byte string.

A message is padded to whole blocks of sixteen 32-bit words (`pad`, `blocks`). Each block is
stretched to sixty-four words (`schedule`), which are mixed one by one into a state of eight words
(`mix`), and the state after the block is added to the one before it (`compress`). The digest is
the last state, highest byte of each word first.
-/

namespace BeaconDuties.Sha256

/-- The eight words that a message is mixed into. -/
structure State where
  a : UInt32
  b : UInt32
  c : UInt32
  d : UInt32
  e : UInt32
  f : UInt32
  g : UInt32
  h : UInt32
deriving DecidableEq, Repr

/-- The state before the first block. -/
def initial : State :=
  ⟨0x6a09e667, 0xbb67ae85, 0x3c6ef372, 0xa54ff53a, 0x510e527f, 0x9b05688c, 0x1f83d9ab, 0x5be0cd19⟩

/-- One constant for each round. -/
def roundConstants : List UInt32 :=
  [0x428a2f98, 0x71374491, 0xb5c0fbcf, 0xe9b5dba5, 0x3956c25b, 0x59f111f1, 0x923f82a4, 0xab1c5ed5,
   0xd807aa98, 0x12835b01, 0x243185be, 0x550c7dc3, 0x72be5d74, 0x80deb1fe, 0x9bdc06a7, 0xc19bf174,
   0xe49b69c1, 0xefbe4786, 0x0fc19dc6, 0x240ca1cc, 0x2de92c6f, 0x4a7484aa, 0x5cb0a9dc, 0x76f988da,
   0x983e5152, 0xa831c66d, 0xb00327c8, 0xbf597fc7, 0xc6e00bf3, 0xd5a79147, 0x06ca6351, 0x14292967,
   0x27b70a85, 0x2e1b2138, 0x4d2c6dfc, 0x53380d13, 0x650a7354, 0x766a0abb, 0x81c2c92e, 0x92722c85,
   0xa2bfe8a1, 0xa81a664b, 0xc24b8b70, 0xc76c51a3, 0xd192e819, 0xd6990624, 0xf40e3585, 0x106aa070,
   0x19a4c116, 0x1e376c08, 0x2748774c, 0x34b0bcb5, 0x391c0cb3, 0x4ed8aa4a, 0x5b9cca4f, 0x682e6ff3,
   0x748f82ee, 0x78a5636f, 0x84c87814, 0x8cc70208, 0x90befffa, 0xa4506ceb, 0xbef9a3f7, 0xc67178f2]

/-- The word turned right by `n` places, for `n` between 1 and 31. -/
def turn (word n : UInt32) : UInt32 := (word >>> n) ||| (word <<< (32 - n))

/-- `count` further words after sixteen given ones. -/
def stretch : Nat → List UInt32 → List UInt32
  | 0, _ => []
  | count + 1, window =>
    let w1 := window.getD 1 0
    let w14 := window.getD 14 0
    let s0 := turn w1 7 ^^^ turn w1 18 ^^^ (w1 >>> 3)
    let s1 := turn w14 17 ^^^ turn w14 19 ^^^ (w14 >>> 10)
    let word := window.getD 0 0 + s0 + window.getD 9 0 + s1
    word :: stretch count (window.tail ++ [word])

/-- The sixty-four words of a block of sixteen. -/
def schedule (block : List UInt32) : List UInt32 := block ++ stretch 48 block

/-- One round: a word and its constant are mixed into the state. -/
def mix (s : State) (constant word : UInt32) : State :=
  let s1 := turn s.e 6 ^^^ turn s.e 11 ^^^ turn s.e 25
  let choice := (s.e &&& s.f) ^^^ (~~~s.e &&& s.g)
  let t1 := s.h + s1 + choice + constant + word
  let s0 := turn s.a 2 ^^^ turn s.a 13 ^^^ turn s.a 22
  let majority := (s.a &&& s.b) ^^^ (s.a &&& s.c) ^^^ (s.b &&& s.c)
  ⟨t1 + (s0 + majority), s.a, s.b, s.c, s.d + t1, s.e, s.f, s.g⟩

/-- All rounds of a block. -/
def rounds (s : State) : List UInt32 → List UInt32 → State
  | constant :: constants, word :: words => rounds (mix s constant word) constants words
  | _, _ => s

/-- Mixes a block into the state. -/
def compress (s : State) (block : List UInt32) : State :=
  let t := rounds s roundConstants (schedule block)
  ⟨s.a + t.a, s.b + t.b, s.c + t.c, s.d + t.d, s.e + t.e, s.f + t.f, s.g + t.g, s.h + t.h⟩

/-- The message with a set bit, zeros and its length in bits after it; a whole number of blocks. -/
def pad (message : List UInt8) : List UInt8 :=
  let length := message.length
  let zeros := (119 - length % 64) % 64
  message ++ 0x80 :: List.replicate zeros 0 ++
    (List.range 8).map fun i => UInt8.ofNat (8 * length / Nat.pow 256 (7 - i))

/-- The words of a byte string, highest byte first. -/
def words : List UInt8 → List UInt32
  | b0 :: b1 :: b2 :: b3 :: rest =>
    (b0.toUInt32 <<< 24 ||| b1.toUInt32 <<< 16 ||| b2.toUInt32 <<< 8 ||| b3.toUInt32) :: words rest
  | _ => []

/-- The first `count` blocks of a padded message. -/
def blocks : Nat → List UInt8 → List (List UInt32)
  | 0, _ => []
  | count + 1, bytes => words (bytes.take 64) :: blocks count (bytes.drop 64)

/-- The bytes of a word, highest first. -/
def wordBytes (word : UInt32) : List UInt8 :=
  [(word >>> 24).toUInt8, (word >>> 16).toUInt8, (word >>> 8).toUInt8, word.toUInt8]

/-- The digest of a message. -/
def digest (message : List UInt8) : FixedBytes 32 :=
  let padded := pad message
  let s := (blocks (padded.length / 64) padded).foldl compress initial
  ⟨[s.a, s.b, s.c, s.d, s.e, s.f, s.g, s.h].flatMap wordBytes, by simp [wordBytes]⟩

end BeaconDuties.Sha256
