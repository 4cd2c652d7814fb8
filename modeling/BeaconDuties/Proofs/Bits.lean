import BeaconDuties.Bits
import BeaconDuties.Proofs.Text.Hex
import Mathlib.Logic.Basic

/-!
Bit fields are read as those that are written.

Packing goes eight bits at a time (`Bits.pack_induction`), and unpacking gives the bits back with
zeros after them, as many as the last byte lacks (`Bits.unpack_pack`).

* A bit list is what stands before the last bit that is set, which is its sentinel. There are fewer
  zeros than a byte has, so that the sentinel is in the last byte.
* A bit vector comes back as it was if it has a whole number of bytes.
-/

namespace BeaconDuties

namespace Bits

theorem value_lt : ∀ {bits : List Bool}, value bits < Nat.pow 2 bits.length
  | [] => Nat.one_pos
  | bit :: rest => by
    have hrest := @value_lt rest
    have hbit := bit.toNat_le
    have hpow : Nat.pow 2 (rest.length + 1) = Nat.pow 2 rest.length * 2 := rfl
    rw [value, List.length_cons, hpow]
    omega

theorem value_ne_zero : ∀ {bits : List Bool}, true ∈ bits → value bits ≠ 0
  | bit :: rest, h => by
    rw [value]
    rcases List.mem_cons.1 h with rfl | h
    · rw [Bool.toNat_true]
      omega
    · have hrest := value_ne_zero h
      omega

theorem ofNat_value : ∀ {bits : List Bool} {count : Nat},
    ofNat (value bits) (bits.length + count) = bits ++ List.replicate count false
  | [], 0 => rfl
  | [], count + 1 => by
    rw [List.length_nil, Nat.zero_add, ofNat, value, List.nil_append, List.replicate_succ]
    refine congrArg (false :: ·) ?_
    simpa [value] using @ofNat_value [] count
  | bit :: rest, count => by
    have hmod : (bit.toNat + 2 * value rest) % 2 = bit.toNat := by
      have hbit := bit.toNat_lt
      omega
    have hdiv : (bit.toNat + 2 * value rest) / 2 = value rest := by
      have hbit := bit.toNat_lt
      omega
    rw [List.length_cons, Nat.add_right_comm, ofNat, value, hmod, hdiv, ofNat_value]
    cases bit <;> rfl

theorem toNat_byte {bits : List Bool} (h : bits.length ≤ 8) : (byte bits).toNat = value bits :=
  UInt8.toNat_ofNat_of_lt'
    (Nat.lt_of_lt_of_le value_lt (Nat.pow_le_pow_right (by decide) h))

theorem byte_ne_zero {bits : List Bool} (h : bits.length ≤ 8) (ht : true ∈ bits) :
    byte bits ≠ 0 := by
  intro hz
  have hv := toNat_byte h
  rw [hz] at hv
  exact value_ne_zero ht hv.symm

theorem unpack_byte {bits : List Bool} (h : bits.length ≤ 8) {rest : List UInt8} :
    unpack (byte bits :: rest) =
      bits ++ List.replicate (8 - bits.length) false ++ unpack rest := by
  rw [unpack, toNat_byte h, ← ofNat_value, Nat.add_sub_cancel' h]

/-! ## Packing -/

theorem pack_append {front rest : List Bool} (h : front.length = 8) :
    pack (front ++ rest) = byte front :: pack rest := by
  match front, h with
  | [_, _, _, _, _, _, _, _], _ => rfl

theorem pack_short {bits : List Bool} (hne : bits ≠ []) (h : bits.length < 8) :
    pack bits = [byte bits] := by
  rw [pack]
  · exact hne
  · rintro b0 b1 b2 b3 b4 b5 b6 b7 rest rfl
    simp only [List.length_cons] at h
    omega

/-- A list of bits is less than a byte, or it is a byte and the bits after it. -/
@[elab_as_elim]
theorem pack_induction {motive : List Bool → Prop} (short : ∀ bits, bits.length < 8 → motive bits)
    (whole : ∀ front rest, front.length = 8 → motive rest → motive (front ++ rest))
    (bits : List Bool) : motive bits := by
  by_cases h : bits.length < 8
  · exact short bits h
  · rw [← List.take_append_drop 8 bits]
    refine whole _ _ ?_ (pack_induction short whole (bits.drop 8))
    rw [List.length_take]
    omega
termination_by bits.length
decreasing_by
  rw [List.length_drop]
  omega

/-- How many bits the last byte of packed bits has left over. -/
def padding (count : Nat) : Nat := (8 - count % 8) % 8

theorem unpack_pack (bits : List Bool) :
    unpack (pack bits) = bits ++ List.replicate (padding bits.length) false := by
  induction bits using pack_induction with
  | short bits h =>
    rcases eq_or_ne bits [] with rfl | hne
    · rfl
    have hpos := List.length_pos_iff.2 hne
    have hpadding : padding bits.length = 8 - bits.length := by
      rw [padding]
      omega
    rw [pack_short hne h, unpack_byte (Nat.le_of_lt h), hpadding, unpack, List.append_nil]
  | whole front rest h ih =>
    have hpadding : padding (front ++ rest).length = padding rest.length := by
      rw [padding, padding, List.length_append]
      omega
    rw [pack_append h, unpack_byte (Nat.le_of_eq h), ih, hpadding, h, Nat.sub_self, List.replicate_zero,
      List.append_nil, List.append_assoc]

/-- A bit that is set in the end is found in the last byte. -/
theorem getLast?_pack_ne_zero {bits : List Bool} (hlast : bits.getLast? = some true) :
    (pack bits).getLast?.getD 0 ≠ 0 := by
  induction bits using pack_induction with
  | short bits h =>
    have hmem := List.mem_of_getLast? hlast
    rw [pack_short (List.ne_nil_of_mem hmem) h]
    exact byte_ne_zero (Nat.le_of_lt h) hmem
  | whole front rest h ih =>
    rw [pack_append h, List.getLast?_cons]
    rcases eq_or_ne rest [] with rfl | hne
    · rw [List.append_nil] at hlast
      exact byte_ne_zero (Nat.le_of_eq h) (List.mem_of_getLast? hlast)
    · have hsome := List.getLast?_eq_some_getLast hne
      rw [List.getLast?_append, hsome, Option.some_or, ← hsome] at hlast
      have hrest := ih hlast
      cases hr : (pack rest).getLast? with
      | none => simp [hr] at hrest
      | some last => simpa [hr] using hrest

/-! ## The last bit -/

theorem beforeLastOne?_replicate : ∀ {count : Nat},
    beforeLastOne? (List.replicate count false) = none
  | 0 => rfl
  | count + 1 => by
    rw [List.replicate_succ, beforeLastOne?, beforeLastOne?_replicate]
    rfl

theorem beforeLastOne?_append : ∀ {bits : List Bool} {count : Nat},
    beforeLastOne? (bits ++ true :: List.replicate count false) = some bits
  | [], _ => by
    rw [List.nil_append, beforeLastOne?, beforeLastOne?_replicate]
    rfl
  | bit :: rest, _ => by rw [List.cons_append, beforeLastOne?, beforeLastOne?_append]

theorem bytesOfText_prefixed (bytes : List UInt8) :
    bytesOfText (Hex.prefixed bytes) = .ok bytes := by
  rw [bytesOfText, Hex.prefixed, String.toList_ofList, Hex.stripPrefix?]
  dsimp only
  rw [Hex.decode_encodeChars]
  rfl

end Bits

theorem BitList.ofBytes_toBytes (x : BitList) : ofBytes x.toBytes = .ok x := by
  rw [ofBytes, toBytes, if_neg (Bits.getLast?_pack_ne_zero (by simp)), Bits.unpack_pack,
    List.append_assoc, List.singleton_append, Bits.beforeLastOne?_append]

/-- The text that is written for a bit list is read as this list. -/
theorem BitList.read_render (x : BitList) : read x.render = .ok x := by
  rw [read, render, Bits.bytesOfText_prefixed]
  exact x.ofBytes_toBytes

theorem BitVector.ofBytes_toBytes {x : BitVector} (h : 8 ∣ x.length) : ofBytes x.toBytes = x := by
  have hpadding : Bits.padding x.bits.length = 0 := by
    change 8 ∣ x.bits.length at h
    rw [Bits.padding]
    omega
  rw [ofBytes, toBytes, Bits.unpack_pack, hpadding, List.replicate_zero, List.append_nil]

/-- The text that is written for a bit vector of whole bytes is read as this vector. -/
theorem BitVector.read_render {x : BitVector} (h : 8 ∣ x.length) : read x.render = .ok x := by
  rw [read, render, Bits.bytesOfText_prefixed]
  exact congrArg Except.ok (ofBytes_toBytes h)

end BeaconDuties
