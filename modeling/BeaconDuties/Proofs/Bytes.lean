import BeaconDuties.Bytes
import BeaconDuties.Proofs.Text.Hex

/-!
Byte strings of a fixed size are read as those for which a text is written.

What is written has the right length and no blanks, so that nothing is left over to be filled with
zeros (`FixedBytes.ofMessage?_render`).
-/

namespace BeaconDuties.FixedBytes

open Hex

variable {size : Nat}

theorem bytes_inj {x y : FixedBytes size} (h : x.bytes = y.bytes) : x = y := by
  cases x
  cases y
  congr 1

theorem isBlank_digitByte {n : UInt8} (h : n < 16) : isBlank (digitByte n) = false := by
  have hall : ∀ k < 16, isBlank (digitByte (UInt8.ofNat k)) = false := by decide
  simpa using hall n.toNat h

theorem filter_digitBytes : ∀ {bytes : List UInt8},
    (digitBytes bytes).filter (!isBlank ·) = digitBytes bytes
  | [] => rfl
  | byte :: rest => by
    simp only [digitBytes, List.filter_cons, isBlank_digitByte div_lt, isBlank_digitByte mod_lt,
      @filter_digitBytes rest, Bool.not_false, if_true]

theorem wholePairs?_digitBytes : ∀ {bytes : List UInt8},
    wholePairs? (digitBytes bytes) = some bytes
  | [] => rfl
  | byte :: rest => by
    simp only [digitBytes, wholePairs?, digitValue?_digitByte div_lt, digitValue?_digitByte mod_lt,
      @wholePairs?_digitBytes rest, div_mul_add_mod, Option.bind_eq_bind,
      Option.bind_some, Option.pure_def]

theorem padded_bytes (x : FixedBytes size) : padded size x.bytes = x := by
  obtain ⟨bytes, rfl⟩ := x
  simp [padded]

theorem utf8_withoutPrefix_render (x : FixedBytes size) :
    utf8 (withoutPrefix x.render.toList) = digitBytes x.bytes := by
  rw [render, prefixed, String.toList_ofList]
  exact utf8_encodeChars

theorem ofMessage?_render (x : FixedBytes size) : ofMessage? size x.render = some x := by
  have hlength : (guard ((digitBytes x.bytes).length = 2 * size) : Option Unit) = some () :=
    if_pos (by rw [length_digitBytes, x.length_eq])
  rw [ofMessage?, utf8_withoutPrefix_render, hlength, filter_digitBytes, wholePairs?_digitBytes]
  exact congrArg some x.padded_bytes

end BeaconDuties.FixedBytes
