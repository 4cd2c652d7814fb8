import BeaconDuties.Node.Identifier
import BeaconDuties.Proofs.Bytes
import BeaconDuties.Proofs.Text.Numeral
import BeaconDuties.Proofs.Text.Spelling

/-!
Names of blocks, states and validators are read as what they are names of.

A number and a byte string both begin with a digit, and no word does (`BeginsWithDigit`). The second
character of a byte string is no digit, so that a number is never one (`FixedBytes.read?_numeral`,
`Numeral.stripPrefix?_renderUInt64`). So each name is refused by all readers before its own
(`slotOrRoot?_root`).
-/

namespace BeaconDuties

/-- Whether a text begins with a digit. -/
def BeginsWithDigit (text : String) : Prop := text.toList.head?.any Char.isDigit

instance {text : String} : Decidable (BeginsWithDigit text) :=
  inferInstanceAs (Decidable (_ = true))

theorem BeginsWithDigit.ne {text word : String} (h : BeginsWithDigit text)
    (hword : ¬ BeginsWithDigit word) : text ≠ word := by
  rintro rfl
  exact hword h

namespace Numeral

theorem isDigit_of_mem_renderUInt64 {n : UInt64} : ∀ c ∈ (renderUInt64 n).toList, c.isDigit := by
  intro c hc
  rw [renderUInt64, render, String.toList_ofList] at hc
  exact Nat.isDigit_of_mem_toDigits (by decide) (by decide) hc

theorem beginsWithDigit_renderUInt64 {n : UInt64} : BeginsWithDigit (renderUInt64 n) := by
  have hne : (renderUInt64 n).toList ≠ [] := by
    rw [renderUInt64, render, String.toList_ofList]
    exact Nat.toDigits_ne_nil
  obtain ⟨c, cs, hcs⟩ := List.exists_cons_of_ne_nil hne
  rw [BeginsWithDigit, hcs]
  exact isDigit_of_mem_renderUInt64 c (by rw [hcs]; exact List.mem_cons_self)

theorem stripPrefix?_renderUInt64 {n : UInt64} :
    Hex.stripPrefix? (renderUInt64 n).toList = none := by
  rw [Option.eq_none_iff_forall_ne_some]
  intro digits h
  have hx : 'x' ∈ (renderUInt64 n).toList := by
    rw [Hex.stripPrefix?_eq_some_iff.1 h]
    simp
  exact absurd (isDigit_of_mem_renderUInt64 'x' hx) (by decide)

end Numeral

namespace FixedBytes

variable {size : Nat}

theorem toList_render (x : FixedBytes size) :
    x.render.toList = '0' :: 'x' :: Hex.encodeChars x.bytes :=
  String.toList_ofList

theorem beginsWithDigit_render (x : FixedBytes size) : BeginsWithDigit x.render := by
  rw [BeginsWithDigit, toList_render]
  rfl

theorem read?_render (x : FixedBytes size) : read? size x.render = some x := by
  have hsize : ofList? size x.bytes = some x := dif_pos x.length_eq
  have hdecode : Hex.decodeBytes (Hex.digitBytes x.bytes) = .ok x.bytes := by
    rw [← Hex.utf8_encodeChars]
    exact Hex.decode_encodeChars x.bytes
  rw [read?, utf8_withoutPrefix_render, filter_digitBytes, hdecode]
  exact hsize

/-- What is written for a byte string is no number. -/
theorem read?_numeral (x : FixedBytes size) : Numeral.read? x.render = none := by
  rw [Option.eq_none_iff_forall_ne_some]
  intro n h
  have hread : Numeral.readChars x.render.toList = .ok n := by
    rw [Numeral.read?, Numeral.read] at h
    cases hchars : Numeral.readChars x.render.toList with
    | ok m =>
      rw [hchars] at h
      exact congrArg Except.ok (Option.some.inj h)
    | error fault =>
      rw [hchars] at h
      cases h
  rw [toList_render] at hread
  rcases Numeral.readChars_eq_ok_iff.1 hread with hdigits | ⟨digits, hplus, -⟩
  · exact absurd (hdigits.isDigit 'x' (by simp)) (by decide)
  · exact absurd (List.cons.inj hplus).1 (by decide)

end FixedBytes

section

variable {α : Type} {slot : Slot → α} {root : Root → α}

/-- Reads a slot, or else a root. -/
def slotOrRoot? (slot : Slot → α) (root : Root → α) (text : String) : Option α :=
  ((Numeral.read? text).map slot).or ((FixedBytes.read? 32 text).map root)

theorem slotOrRoot?_slot (n : Slot) :
    slotOrRoot? slot root (Numeral.renderUInt64 n) = some (slot n) := by
  rw [slotOrRoot?, Numeral.read?_renderUInt64]
  rfl

theorem slotOrRoot?_root (x : Root) : slotOrRoot? slot root x.render = some (root x) := by
  rw [slotOrRoot?, x.read?_numeral, x.read?_render]
  rfl

end

namespace BlockId

theorem read?_eq {text : String} (h : BeginsWithDigit text) :
    read? text = slotOrRoot? slot root text := by
  rw [read?, if_neg (h.ne (by decide)), if_neg (h.ne (by decide)), if_neg (h.ne (by decide)),
    slotOrRoot?]
  cases Numeral.read? text <;> rfl

theorem read?_render (x : BlockId) : read? x.render = some x := by
  cases x with
  | head | genesis | finalized => rfl
  | slot n => exact (read?_eq Numeral.beginsWithDigit_renderUInt64).trans (slotOrRoot?_slot n)
  | root x => exact (read?_eq x.beginsWithDigit_render).trans (slotOrRoot?_root x)

theorem render_injective : Function.Injective render := injective_of_read? read? read?_render

end BlockId

namespace StateId

theorem read?_eq {text : String} (h : BeginsWithDigit text) :
    read? text = slotOrRoot? slot root text := by
  rw [read?, if_neg (h.ne (by decide)), if_neg (h.ne (by decide)), if_neg (h.ne (by decide)),
    if_neg (h.ne (by decide)), slotOrRoot?]
  cases Numeral.read? text <;> rfl

theorem read?_render (x : StateId) : read? x.render = some x := by
  cases x with
  | head | genesis | finalized | justified => rfl
  | slot n => exact (read?_eq Numeral.beginsWithDigit_renderUInt64).trans (slotOrRoot?_slot n)
  | root x => exact (read?_eq x.beginsWithDigit_render).trans (slotOrRoot?_root x)

theorem render_injective : Function.Injective render := injective_of_read? read? read?_render

end StateId

namespace ValidatorId

theorem read?_render (x : ValidatorId) : read? x.render = some x := by
  cases x with
  | index n =>
    rw [render, read?, Numeral.stripPrefix?_renderUInt64, Numeral.read?_renderUInt64]
    rfl
  | publicKey key =>
    have hsize : FixedBytes.ofList? 48 key.bytes = some key := dif_pos key.length_eq
    have hdigits : Hex.stripPrefix? key.render.toList = some (Hex.encodeChars key.bytes) :=
      Hex.stripPrefix?_eq_some_iff.2 key.toList_render
    rw [render, read?, hdigits]
    dsimp only
    rw [Hex.decode_encodeChars, Except.toOption, Option.bind_eq_bind, Option.bind_some, hsize]
    rfl

theorem render_injective : Function.Injective render := injective_of_read? read? read?_render

end ValidatorId

end BeaconDuties
