import BeaconDuties.Text.Numeral
import Mathlib.Logic.Function.Basic

/-!
Numerals are read as the numbers for which they are written.

A number grows with each digit that is read. So it is within its bounds all the time if it is so in
the end (`Numeral.readDigits_eq`), and what is written for a number is read as this number
(`Numeral.read_renderUInt64`).

Nothing is read but digits, with or without a plus sign before them (`Numeral.Spells`,
`Numeral.readChars_eq_ok_iff`).
-/

namespace BeaconDuties

/-- What is read again as it was is written differently for different values. -/
theorem injective_of_read? {α β : Type} {write : α → β} (read? : β → Option α)
    (h : ∀ x, read? (write x) = some x) : Function.Injective write := by
  intro x y heq
  have hread := h x
  rw [heq, h y] at hread
  exact (Option.some.inj hread).symm

namespace Numeral

theorem digitValue?_of_isDigit {c : Char} (h : c.isDigit) :
    digitValue? c = some (c.toNat - '0'.toNat) := by
  rw [Char.isDigit, Bool.and_eq_true, decide_eq_true_iff, decide_eq_true_iff] at h
  rw [digitValue?, if_pos ⟨h.1, h.2⟩]

theorem le_ofDigitChars : ∀ {cs : List Char} {value : Nat}, value ≤ Nat.ofDigitChars 10 cs value
  | [], value => Nat.le_refl value
  | c :: cs, value => by
    rw [Nat.ofDigitChars_cons]
    have hrest := @le_ofDigitChars cs (10 * value + (c.toNat - '0'.toNat))
    omega

theorem readDigits_eq : ∀ {cs : List Char} {value : Nat}, (∀ c ∈ cs, c.isDigit) →
    Nat.ofDigitChars 10 cs value < UInt64.size →
    readDigits value cs = .ok (Nat.ofDigitChars 10 cs value)
  | [], _, _, _ => rfl
  | c :: cs, value, hdigits, hlt => by
    rw [Nat.ofDigitChars_cons, Nat.mul_comm] at hlt ⊢
    rw [readDigits, digitValue?_of_isDigit (hdigits c List.mem_cons_self)]
    dsimp only
    rw [if_pos (Nat.lt_of_le_of_lt le_ofDigitChars hlt)]
    exact readDigits_eq (fun c hc => hdigits c (List.mem_cons_of_mem _ hc)) hlt

/-- Digits that stand for a number of more than 64 bits are too many. -/
theorem readDigits_eq_tooLarge : ∀ {cs : List Char} {value : Nat}, (∀ c ∈ cs, c.isDigit) →
    value < UInt64.size → ¬ Nat.ofDigitChars 10 cs value < UInt64.size →
    readDigits value cs = .error .tooLarge
  | [], _, _, hlt, hge => absurd hlt hge
  | c :: cs, value, hdigits, _, hge => by
    rw [Nat.ofDigitChars_cons, Nat.mul_comm] at hge
    rw [readDigits, digitValue?_of_isDigit (hdigits c List.mem_cons_self)]
    dsimp only
    split
    · next hlt =>
      exact readDigits_eq_tooLarge (fun c hc => hdigits c (List.mem_cons_of_mem _ hc)) hlt hge
    · rfl

/-- Where digits alone stand, there is no sign to pass over. -/
theorem readChars_of_isDigit {cs : List Char} (hne : cs ≠ []) (h : ∀ c ∈ cs, c.isDigit) :
    readChars cs = (readDigits 0 cs).map UInt64.ofNat := by
  match cs with
  | [] => exact absurd rfl hne
  | c :: cs =>
    have hc : c ≠ '+' := by
      rintro rfl
      exact absurd (h '+' List.mem_cons_self) (by decide)
    rw [readChars]
    · exact nofun
    · exact fun he => hc (List.cons.inj he).1
    · exact fun _ he => hc (List.cons.inj he).1

theorem read_renderUInt64 (n : UInt64) : read (renderUInt64 n) = .ok n := by
  have hdigits : ∀ c ∈ Nat.toDigits 10 n.toNat, c.isDigit :=
    fun c hc => Nat.isDigit_of_mem_toDigits (by decide) (by decide) hc
  rw [read, renderUInt64, render, String.toList_ofList,
    readChars_of_isDigit Nat.toDigits_ne_nil hdigits, readDigits_eq hdigits,
    Nat.ofDigitChars_ten_toDigits]
  · exact congrArg Except.ok UInt64.ofNat_toNat
  · rw [Nat.ofDigitChars_ten_toDigits]
    exact n.toNat_lt

theorem read?_renderUInt64 (n : UInt64) : read? (renderUInt64 n) = some n := by
  rw [read?, read_renderUInt64]
  rfl

theorem renderUInt64_injective : Function.Injective renderUInt64 :=
  injective_of_read? read? read?_renderUInt64

/-! ## What is read -/

/-- Whether digits, and nothing else, stand for a number. -/
structure Spells (digits : List Char) (n : UInt64) : Prop where
  ne_nil : digits ≠ []
  isDigit : ∀ c ∈ digits, c.isDigit
  value_eq : Nat.ofDigitChars 10 digits 0 = n.toNat

theorem isDigit_of_digitValue? {c : Char} {digit : Nat} (h : digitValue? c = some digit) :
    c.isDigit ∧ digit = c.toNat - '0'.toNat := by
  rw [digitValue?] at h
  split at h
  · next hc =>
    refine ⟨?_, (Option.some.inj h).symm⟩
    rw [Char.isDigit, Bool.and_eq_true, decide_eq_true_iff, decide_eq_true_iff]
    exact hc
  · cases h

/-- Whatever is read is made of digits, and each step has kept within the bounds. -/
theorem of_readDigits_eq_ok : ∀ {cs : List Char} {value n : Nat}, value < UInt64.size →
    readDigits value cs = .ok n →
    (∀ c ∈ cs, c.isDigit) ∧ Nat.ofDigitChars 10 cs value = n ∧ n < UInt64.size
  | [], _, _, hlt, h => by
    cases h
    exact ⟨List.forall_mem_nil _, rfl, hlt⟩
  | c :: cs, value, n, _, h => by
    rw [readDigits] at h
    cases hdigit : digitValue? c with
    | none =>
      rw [hdigit] at h
      cases h
    | some digit =>
      obtain ⟨hc, rfl⟩ := isDigit_of_digitValue? hdigit
      simp only [hdigit] at h
      split at h
      · next hlonger =>
        obtain ⟨hcs, hvalue, hn⟩ := of_readDigits_eq_ok hlonger h
        rw [Nat.mul_comm] at hvalue
        exact ⟨List.forall_mem_cons.2 ⟨hc, hcs⟩, hvalue, hn⟩
      · cases h

theorem map_readDigits_eq_ok_iff {cs : List Char} {n : UInt64} :
    (readDigits 0 cs).map UInt64.ofNat = .ok n ↔
      (∀ c ∈ cs, c.isDigit) ∧ Nat.ofDigitChars 10 cs 0 = n.toNat := by
  constructor
  · intro h
    cases hread : readDigits 0 cs with
    | error fault =>
      rw [hread] at h
      cases h
    | ok value =>
      rw [hread] at h
      cases h
      obtain ⟨hdigits, hvalue, hlt⟩ := of_readDigits_eq_ok (by decide) hread
      exact ⟨hdigits, by rw [hvalue, UInt64.toNat_ofNat_of_lt' hlt]⟩
  · rintro ⟨hdigits, hvalue⟩
    have hlt : Nat.ofDigitChars 10 cs 0 < UInt64.size := hvalue ▸ n.toNat_lt
    rw [readDigits_eq hdigits hlt, hvalue]
    exact congrArg Except.ok UInt64.ofNat_toNat

/-- **A numeral is digits, with or without a plus sign before them.** -/
theorem readChars_eq_ok_iff {cs : List Char} {n : UInt64} :
    readChars cs = .ok n ↔ Spells cs n ∨ ∃ digits, cs = '+' :: digits ∧ Spells digits n := by
  constructor
  · intro h
    unfold readChars at h
    split at h
    · cases h
    · cases h
    · next digits hne =>
      obtain ⟨hdigits, hvalue⟩ := map_readDigits_eq_ok_iff.1 h
      exact .inr ⟨digits, rfl, hne, hdigits, hvalue⟩
    · next hne _ _ =>
      obtain ⟨hdigits, hvalue⟩ := map_readDigits_eq_ok_iff.1 h
      exact .inl ⟨hne, hdigits, hvalue⟩
  · rintro (h | ⟨digits, rfl, h⟩)
    · rw [readChars_of_isDigit h.ne_nil h.isDigit, map_readDigits_eq_ok_iff]
      exact ⟨h.isDigit, h.value_eq⟩
    · rw [readChars, map_readDigits_eq_ok_iff]
      · exact ⟨h.isDigit, h.value_eq⟩
      · exact h.ne_nil

end Numeral

end BeaconDuties
