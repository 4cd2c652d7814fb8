import BeaconDuties.Proofs.Bits
import BeaconDuties.Proofs.Text.Spelling

/-!
Which byte strings and which texts are bit fields.

Packing undoes unpacking (`Bits.pack_unpack`), so that a byte string is known from its bits, and a
bit field that is written as given bytes is the only one.

* `Bits.Sealed`: the last byte of a byte string is there and is not zero. Its highest bit that is
  set is the sentinel of a bit list, with fewer zeros after it than a byte has bits
  (`Bits.Sealed.exists_unpack`).
* `Bits.encodings_faithful`: bit lists and bit vectors are read from the bytes and the texts that
  are written for them. The other byte strings and texts that are read are told by their form.
-/

namespace BeaconDuties

namespace Bits

variable {bits : List Bool} {bytes : List UInt8} {b : UInt8}

/-! ## The bits of bytes -/

theorem length_ofNat : ∀ {n count : Nat}, (ofNat n count).length = count
  | _, 0 => rfl
  | n, count + 1 => by rw [ofNat, List.length_cons, length_ofNat]

/-- A number is that of its bits, if these are enough. -/
theorem value_ofNat : ∀ {n count : Nat}, n < Nat.pow 2 count → value (ofNat n count) = n
  | n, 0, h => (Nat.lt_one_iff.1 h).symm
  | n, count + 1, h => by
    have hpow : Nat.pow 2 (count + 1) = Nat.pow 2 count * 2 := rfl
    have hbit : (n % 2 == 1).toNat = n % 2 := by
      rcases Nat.mod_two_eq_zero_or_one n with hn | hn <;> rw [hn] <;> rfl
    rw [ofNat, value, hbit, value_ofNat (by omega)]
    omega

theorem byte_ofNat : byte (ofNat b.toNat 8) = b := by
  rw [byte, value_ofNat b.toNat_lt, UInt8.ofNat_toNat]

/-- Bytes are packed again as they were. -/
theorem pack_unpack : ∀ {bytes : List UInt8}, pack (unpack bytes) = bytes
  | [] => rfl
  | byte :: rest => by rw [unpack, pack_append length_ofNat, byte_ofNat, pack_unpack]

theorem unpack_inj {other : List UInt8} (h : unpack bytes = unpack other) : bytes = other := by
  rw [← @pack_unpack bytes, h, pack_unpack]

theorem length_unpack : ∀ {bytes : List UInt8}, (unpack bytes).length = 8 * bytes.length
  | [] => rfl
  | byte :: rest => by
    rw [unpack, List.length_append, length_ofNat, length_unpack, List.length_cons]
    omega

theorem unpack_append : ∀ {front rest : List UInt8},
    unpack (front ++ rest) = unpack front ++ unpack rest
  | [], _ => rfl
  | byte :: front, rest => by
    rw [List.cons_append, unpack, unpack, unpack_append, List.append_assoc]

theorem padding_lt {count : Nat} : padding count < 8 := Nat.mod_lt _ (by decide)

theorem dvd_add_padding {count : Nat} : 8 ∣ count + padding count := by
  rw [padding]
  omega

/-- There is one number of zeros that fill up the last byte. -/
theorem eq_padding {count zeros : Nat} (hlt : zeros < 8) (hdvd : 8 ∣ count + zeros) :
    zeros = padding count := by
  rw [padding]
  omega

/-! ## The sentinel -/

/-- Whether a byte string ends in a byte that is not zero. -/
def Sealed (bytes : List UInt8) : Prop := ∃ front last, bytes = front ++ [last] ∧ last ≠ 0

theorem sealed_iff : Sealed bytes ↔ bytes.getLast?.getD 0 ≠ 0 := by
  constructor
  · rintro ⟨front, last, rfl, hlast⟩
    rw [List.getLast?_concat]
    exact hlast
  · intro h
    rcases List.eq_nil_or_concat bytes with rfl | ⟨front, last, hbytes⟩
    · exact absurd rfl h
    · rw [List.concat_eq_append] at hbytes
      rw [hbytes, List.getLast?_concat] at h
      exact ⟨front, last, hbytes, h⟩

theorem eq_replicate_false (h : true ∉ bits) : bits = List.replicate bits.length false := by
  refine List.eq_replicate_of_mem fun bit hbit => ?_
  cases bit
  · rfl
  · exact absurd hbit h

/-- Bits of which one is set have a last one that is. -/
theorem exists_last_one : ∀ {bits : List Bool}, true ∈ bits →
    ∃ front zeros, bits = front ++ true :: List.replicate zeros false
  | bit :: rest, h => by
    by_cases hrest : true ∈ rest
    · obtain ⟨front, zeros, rfl⟩ := exists_last_one hrest
      exact ⟨bit :: front, zeros, rfl⟩
    · obtain rfl : true = bit := (List.mem_cons.1 h).resolve_right hrest
      exact ⟨[], rest.length, congrArg (true :: ·) (eq_replicate_false hrest)⟩

theorem true_mem_ofNat (h : b ≠ 0) : true ∈ ofNat b.toNat 8 := by
  refine Decidable.byContradiction fun hnone => h ?_
  rw [← @byte_ofNat b, eq_replicate_false hnone, length_ofNat]
  rfl

theorem Sealed.exists_unpack (h : Sealed bytes) :
    ∃ front zeros, zeros < 8 ∧ unpack bytes = front ++ true :: List.replicate zeros false := by
  obtain ⟨init, last, rfl, hlast⟩ := h
  obtain ⟨front, zeros, hbits⟩ := exists_last_one (true_mem_ofNat hlast)
  have hlength : (ofNat last.toNat 8).length = 8 := length_ofNat
  rw [hbits, List.length_append, List.length_cons, List.length_replicate] at hlength
  refine ⟨unpack init ++ front, zeros, by omega, ?_⟩
  rw [unpack_append, unpack, unpack, List.append_nil, hbits, List.append_assoc]

end Bits

open Bits

/-! ## Byte strings -/

namespace BitList

variable {x : BitList} {bytes : List UInt8}

theorem exists_toBytes (h : Sealed bytes) : ∃ x : BitList, x.toBytes = bytes := by
  obtain ⟨front, zeros, hlt, hbits⟩ := h.exists_unpack
  have hlength := @length_unpack bytes
  rw [hbits, List.length_append, List.length_cons, List.length_replicate] at hlength
  -- the zeros are those with which the bits up to the sentinel are filled up
  have hzeros : zeros = padding (front ++ [true]).length := by
    refine eq_padding hlt ⟨bytes.length, ?_⟩
    rw [List.length_append, List.length_singleton]
    omega
  refine ⟨⟨front⟩, unpack_inj ?_⟩
  rw [toBytes, unpack_pack, ← hzeros, hbits, List.append_assoc, List.singleton_append]

theorem sealed_of_ofBytes (h : ofBytes bytes = .ok x) : Sealed bytes := by
  rw [sealed_iff]
  intro hlast
  rw [ofBytes, if_pos hlast] at h
  cases h

/-- A bit list is read from the bytes that are written for it, and from no others. -/
theorem ofBytes_eq_ok_iff : ofBytes bytes = .ok x ↔ x.toBytes = bytes := by
  constructor
  · intro h
    obtain ⟨y, rfl⟩ := exists_toBytes (sealed_of_ofBytes h)
    rw [ofBytes_toBytes] at h
    rw [Except.ok.inj h]
  · rintro rfl
    exact ofBytes_toBytes x

theorem exists_ofBytes_iff : (∃ x, ofBytes bytes = .ok x) ↔ Sealed bytes := by
  constructor
  · rintro ⟨x, h⟩
    exact sealed_of_ofBytes h
  · intro h
    obtain ⟨x, hx⟩ := exists_toBytes h
    exact ⟨x, ofBytes_eq_ok_iff.2 hx⟩

end BitList

namespace BitVector

theorem toBytes_ofBytes (bytes : List UInt8) : (ofBytes bytes).toBytes = bytes := pack_unpack

theorem ofBytes_toBytes_eq (x : BitVector) :
    ofBytes x.toBytes = ⟨x.bits ++ List.replicate (padding x.length) false⟩ :=
  congrArg BitVector.mk (unpack_pack x.bits)

end BitVector

/-! ## Texts -/

theorem Bits.bytesOfText_eq_ok_iff {text : String} {bytes : List UInt8} :
    bytesOfText text = .ok bytes ↔
      ∃ digits, text.toList = '0' :: 'x' :: digits ∧ Hex.Spells digits bytes := by
  constructor
  · intro h
    rw [bytesOfText] at h
    cases hstrip : Hex.stripPrefix? text.toList with
    | none =>
      rw [hstrip] at h
      cases h
    | some digits =>
      rw [hstrip] at h
      dsimp only at h
      cases hdecode : Hex.decode digits with
      | error reason =>
        rw [hdecode] at h
        cases h
      | ok content =>
        rw [hdecode] at h
        cases h
        exact ⟨digits, Hex.stripPrefix?_eq_some_iff.1 hstrip, Hex.decode_eq_ok_iff.1 hdecode⟩
  · rintro ⟨digits, htext, hspells⟩
    rw [bytesOfText, Hex.stripPrefix?_eq_some_iff.2 htext]
    dsimp only
    rw [Hex.decode_eq_ok_iff.2 hspells]
    rfl

/-- What is read from the bytes of a text is read from those that its digits spell. -/
theorem Bits.exists_of_bytesOfText_bind {α : Type} {text : String} {x : α}
    {f : List UInt8 → Except BitsError α} (h : bytesOfText text >>= f = .ok x) :
    ∃ digits bytes, text.toList = '0' :: 'x' :: digits ∧ Hex.Spells digits bytes ∧
      f bytes = .ok x := by
  cases hbytes : bytesOfText text with
  | error fault =>
    rw [hbytes] at h
    cases h
  | ok bytes =>
    obtain ⟨digits, htext, hspells⟩ := bytesOfText_eq_ok_iff.1 hbytes
    rw [hbytes] at h
    exact ⟨digits, bytes, htext, hspells, h⟩

namespace Hex

variable {text : String} {digits : List Char} {bytes : List UInt8}

/-- A bit vector is read from any text that spells its bytes. -/
theorem Spells.read_bitVector (h : Spells digits bytes)
    (htext : text.toList = '0' :: 'x' :: digits) :
    BitVector.read text = .ok (BitVector.ofBytes bytes) := by
  rw [BitVector.read, bytesOfText_eq_ok_iff.2 ⟨digits, htext, h⟩]
  rfl

theorem Spells.read_bitList (h : Spells digits bytes)
    (htext : text.toList = '0' :: 'x' :: digits) :
    BitList.read text = BitList.ofBytes bytes := by
  rw [BitList.read, bytesOfText_eq_ok_iff.2 ⟨digits, htext, h⟩]
  rfl

end Hex

theorem BitVector.exists_read_iff {text : String} : (∃ x, read text = .ok x) ↔
    ∃ digits, text.toList = '0' :: 'x' :: digits ∧
      digits.length % 2 = 0 ∧ ∀ c ∈ digits, c ∈ Hex.digits := by
  constructor
  · rintro ⟨x, h⟩
    obtain ⟨digits, bytes, htext, hspells, -⟩ := exists_of_bytesOfText_bind h
    exact ⟨digits, htext, Hex.exists_spells_iff.1 ⟨bytes, hspells⟩⟩
  · rintro ⟨digits, htext, hdigits⟩
    obtain ⟨bytes, hspells⟩ := Hex.exists_spells_iff.2 hdigits
    exact ⟨_, hspells.read_bitVector htext⟩

theorem BitList.exists_read_iff {text : String} : (∃ x, read text = .ok x) ↔
    ∃ digits bytes, text.toList = '0' :: 'x' :: digits ∧ Hex.Spells digits bytes ∧
      Sealed bytes := by
  constructor
  · rintro ⟨x, h⟩
    obtain ⟨digits, bytes, htext, hspells, hx⟩ := exists_of_bytesOfText_bind h
    exact ⟨digits, bytes, htext, hspells, sealed_of_ofBytes hx⟩
  · rintro ⟨digits, bytes, htext, hspells, hsealed⟩
    obtain ⟨x, hx⟩ := exists_ofBytes_iff.2 hsealed
    exact ⟨x, by rw [hspells.read_bitList htext, hx]⟩

/-! ## Both encodings -/

/-- **Bit fields are faithful to their bytes and texts.** A bit list comes back from its bytes and
from its text, and a byte string is a bit list exactly if it ends in a byte that is not zero; then
it is the one that is written for this list. Every byte string is that of a bit vector, and a bit
vector comes back with as many zeros as its last byte lacks. A text is read as a bit vector exactly
if it is `0x` with digits of either case in pairs, and as a bit list if their bytes are one. -/
theorem Bits.encodings_faithful :
    (∀ x : BitList, BitList.ofBytes x.toBytes = .ok x ∧ BitList.read x.render = .ok x) ∧
    (∀ bytes, ((∃ x, BitList.ofBytes bytes = .ok x) ↔
        ∃ front last, bytes = front ++ [last] ∧ last ≠ 0) ∧
      ∀ x, BitList.ofBytes bytes = .ok x → x.toBytes = bytes) ∧
    (∀ bytes, (BitVector.ofBytes bytes).toBytes = bytes) ∧
    (∀ x : BitVector, ∃ zeros < 8, 8 ∣ x.length + zeros ∧
      BitVector.ofBytes x.toBytes = ⟨x.bits ++ List.replicate zeros false⟩) ∧
    (∀ text : String, (∃ x, BitVector.read text = .ok x) ↔
      ∃ digits, text.toList = '0' :: 'x' :: digits ∧
        digits.length % 2 = 0 ∧ ∀ c ∈ digits, c ∈ Hex.digits) ∧
    (∀ text : String, (∃ x, BitList.read text = .ok x) ↔
      ∃ digits, text.toList = '0' :: 'x' :: digits ∧
        (digits.length % 2 = 0 ∧ ∀ c ∈ digits, c ∈ Hex.digits) ∧
        ∃ bytes, Hex.Spells digits bytes ∧
          ∃ front last, bytes = front ++ [last] ∧ last ≠ 0) ∧
    (∀ (text : String) (digits : List Char) (bytes : List UInt8),
      text.toList = '0' :: 'x' :: digits → Hex.Spells digits bytes →
        BitVector.read text = .ok (BitVector.ofBytes bytes) ∧
        BitList.read text = BitList.ofBytes bytes) := by
  refine ⟨fun x => ⟨x.ofBytes_toBytes, x.read_render⟩, ?_, BitVector.toBytes_ofBytes, ?_,
    fun text => BitVector.exists_read_iff, ?_, ?_⟩
  · intro bytes
    exact ⟨BitList.exists_ofBytes_iff, fun x hx => BitList.ofBytes_eq_ok_iff.1 hx⟩
  · intro x
    exact ⟨padding x.length, padding_lt, dvd_add_padding, x.ofBytes_toBytes_eq⟩
  · intro text
    rw [BitList.exists_read_iff]
    constructor
    · rintro ⟨digits, bytes, htext, hspells, hsealed⟩
      exact ⟨digits, htext, Hex.exists_spells_iff.1 ⟨bytes, hspells⟩, bytes, hspells, hsealed⟩
    · rintro ⟨digits, htext, -, bytes, hspells, hsealed⟩
      exact ⟨digits, bytes, htext, hspells, hsealed⟩
  · intro text digits bytes htext hspells
    exact ⟨hspells.read_bitVector htext, hspells.read_bitList htext⟩

/-- The sentinel of eight bits takes a byte of its own. -/
theorem Bits.encodings_faithful_eight :
    BitList.ofBytes [255, 1] = .ok ⟨List.replicate 8 true⟩ ∧
    BitList.toBytes ⟨List.replicate 8 true⟩ = [255, 1] ∧
    BitList.read "0xFF01" = .ok ⟨List.replicate 8 true⟩ ∧
    BitVector.read "0xFF01" = .ok ⟨List.replicate 9 true ++ List.replicate 7 false⟩ := by
  obtain ⟨-, hbytes, -, -, -, -, htexts⟩ := encodings_faithful
  have hlist : BitList.ofBytes [255, 1] = .ok ⟨List.replicate 8 true⟩ := rfl
  obtain ⟨hvector, hread⟩ := htexts "0xFF01" ['F', 'F', '0', '1'] [255, 1] rfl rfl
  exact ⟨hlist, (hbytes _).2 _ hlist, hread.trans hlist, hvector⟩

end BeaconDuties
