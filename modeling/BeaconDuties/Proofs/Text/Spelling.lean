import BeaconDuties.Proofs.Text.Hex

/-!
Hexadecimal texts, digit by digit.

Digits are written in lower case and read in either case.

* `Hex.Spells`: a text is the one that is written for a byte string, but for the case of its digits.
  A text spells a byte string exactly if it is made of pairs of digits (`Hex.exists_spells_iff`).
* `Hex.decode_eq_ok_iff`: a text is read as the byte string that it spells, and no other text is
  read at all. A character beyond the first 128 takes several bytes, and the first of them is not
  the byte of a digit.
-/

namespace BeaconDuties.Hex

/-- The digits, those above nine in either case. -/
def digits : List Char := "0123456789abcdefABCDEF".toList

/-- Whether a text is the one that is written for a byte string, but for the case of its digits. -/
def Spells (text : List Char) (bytes : List UInt8) : Prop :=
  text.map Char.toLower = encodeChars bytes

variable {c d : Char} {v w b : UInt8} {text : List Char} {bytes : List UInt8}

/-! ## Digits -/

/-- A digit is the same number for a reader and a writer. -/
theorem digit_of_mem_digits (h : c ∈ digits) : c.toNat < 128 ∧
    ∃ v < 16, digitValue? (UInt8.ofNat c.toNat) = some v ∧ c.toLower = digit v := by
  have hall : digits.all fun c => c.toNat < 128 &&
      (digitValue? (UInt8.ofNat c.toNat)).any fun v => v < 16 && c.toLower = digit v := by decide
  have hc := List.all_eq_true.1 hall c h
  rw [Bool.and_eq_true, decide_eq_true_iff, Option.any_eq_true] at hc
  obtain ⟨hlt, v, hvalue, hv⟩ := hc
  rw [Bool.and_eq_true, decide_eq_true_iff, decide_eq_true_iff] at hv
  exact ⟨hlt, v, hv.1, hvalue, hv.2⟩

theorem mem_digits_of_isSome (hc : c.toNat < 128)
    (h : (digitValue? (UInt8.ofNat c.toNat)).isSome) : c ∈ digits := by
  have hall : ∀ n < 128, (digitValue? (UInt8.ofNat n)).isSome → Char.ofNat n ∈ digits := by decide
  simpa using hall c.toNat hc h

theorem digit_mem_digits (hv : v < 16) : digit v ∈ digits := by
  have hall : ∀ k < 16, digit (UInt8.ofNat k) ∈ digits := by decide
  simpa using hall v.toNat hv

theorem mem_digits_of_toLower (h : c.toLower ∈ digits) : c ∈ digits := by
  by_cases hupper : c.val ≥ 65 ∧ c.val ≤ 90
  · have hall : ∀ k < 26, (Char.ofNat (65 + k)).toLower ∈ digits →
        Char.ofNat (65 + k) ∈ digits := by decide
    have hfrom : 65 ≤ c.toNat := UInt32.le_iff_toNat_le.1 hupper.1
    have hto : c.toNat ≤ 90 := UInt32.le_iff_toNat_le.1 hupper.2
    have hk := hall (c.toNat - 65) (by omega)
    rw [Nat.add_sub_cancel' hfrom, Char.ofNat_toNat] at hk
    exact hk h
  · have hlower : c.toLower = c := dif_neg hupper
    rwa [hlower] at h

theorem digit_inj (hv : v < 16) (hw : w < 16) (h : digit v = digit w) : v = w := by
  have hbytes : digitByte v = digitByte w := by rw [digitByte, digitByte, h]
  have hvalue := digitValue?_digitByte hv
  rw [hbytes, digitValue?_digitByte hw] at hvalue
  exact (Option.some.inj hvalue).symm

/-- The halves of a byte that is made of two digits. -/
theorem halves (hv : v < 16) (hw : w < 16) :
    (v * 16 + w) / 16 = v ∧ (v * 16 + w) % 16 = w := by
  have hv' : v.toNat < 16 := UInt8.lt_iff_toNat_lt.1 hv
  have hw' : w.toNat < 16 := UInt8.lt_iff_toNat_lt.1 hw
  have hbyte : (v * 16 + w).toNat = v.toNat * 16 + w.toNat := by
    rw [UInt8.toNat_add, UInt8.toNat_mul]
    change (v.toNat * 16 % 256 + w.toNat) % 256 = _
    omega
  constructor
  · rw [← UInt8.toNat_inj, UInt8.toNat_div, hbyte]
    change (v.toNat * 16 + w.toNat) / 16 = _
    omega
  · rw [← UInt8.toNat_inj, UInt8.toNat_mod, hbyte]
    change (v.toNat * 16 + w.toNat) % 16 = _
    omega

/-! ## Bytes -/

theorem digitValue?_of_le (h : 128 ≤ b) : digitValue? b = none := by
  rw [UInt8.le_iff_toNat_le] at h
  change 128 ≤ b.toNat at h
  have hnot : ∀ {x y : UInt8}, y.toNat < 128 → ¬ (x ≤ b ∧ b ≤ y) := by
    intro x y hy hb
    have := UInt8.le_iff_toNat_le.1 hb.2
    omega
  rw [digitValue?, if_neg (hnot (by decide)), if_neg (hnot (by decide)), if_neg (hnot (by decide))]

theorem utf8EncodeChar_of_lt (h : c.toNat < 128) :
    String.utf8EncodeChar c = [UInt8.ofNat c.toNat] := if_pos (Nat.le_of_lt_succ h)

/-- A character that takes more than one byte begins with none that could be a digit. -/
theorem exists_utf8EncodeChar (h : 128 ≤ c.toNat) :
    ∃ first rest, String.utf8EncodeChar c = first :: rest ∧ 128 ≤ first := by
  have hbyte : ∀ {n : Nat}, 128 ≤ n → n < 256 → 128 ≤ UInt8.ofNat n := by
    intro n hn hlt
    rw [UInt8.le_iff_toNat_le, UInt8.toNat_ofNat_of_lt' hlt]
    exact hn
  unfold String.utf8EncodeChar
  dsimp only
  rw [if_neg (by change ¬ c.toNat ≤ 127; omega)]
  split
  · exact ⟨_, _, rfl, hbyte (by omega) (by omega)⟩
  · split
    · exact ⟨_, _, rfl, hbyte (by omega) (by omega)⟩
    · exact ⟨_, _, rfl, hbyte (by omega) (by omega)⟩

theorem utf8_cons : utf8 (c :: text) = String.utf8EncodeChar c ++ utf8 text := List.flatMap_cons

/-- A digit is read from one byte. -/
theorem utf8_cons_of_mem (h : c ∈ digits) :
    utf8 (c :: text) = UInt8.ofNat c.toNat :: utf8 text := by
  rw [utf8_cons, utf8EncodeChar_of_lt (digit_of_mem_digits h).1]
  rfl

/-- A character that is no digit begins with a byte that is none. -/
theorem exists_utf8_cons (h : c ∉ digits) :
    ∃ first rest, utf8 (c :: text) = first :: rest ∧ digitValue? first = none := by
  rw [utf8_cons]
  by_cases hc : c.toNat < 128
  · refine ⟨_, utf8 text, by rw [utf8EncodeChar_of_lt hc]; rfl, ?_⟩
    rw [Option.eq_none_iff_forall_ne_some]
    intro v hv
    exact h (mem_digits_of_isSome hc (by rw [hv]; rfl))
  · obtain ⟨first, rest, hfirst, hle⟩ := exists_utf8EncodeChar (Nat.not_lt.1 hc)
    exact ⟨first, rest ++ utf8 text, by rw [hfirst]; rfl, digitValue?_of_le hle⟩

/-! ## Texts -/

theorem spells_nil : Spells [] bytes ↔ bytes = [] := by
  cases bytes <;> simp [Spells, encodeChars]

theorem not_spells_singleton : ¬ Spells [c] bytes := by
  cases bytes <;> simp [Spells, encodeChars]

theorem spells_cons_cons : Spells (c :: d :: text) bytes ↔
    ∃ byte rest, bytes = byte :: rest ∧ c.toLower = digit (byte / 16) ∧
      d.toLower = digit (byte % 16) ∧ Spells text rest := by
  cases bytes with
  | nil => simp [Spells, encodeChars]
  | cons byte rest =>
    rw [Spells, List.map_cons, List.map_cons, encodeChars, List.cons.injEq, List.cons.injEq]
    constructor
    · rintro ⟨hc, hd, htext⟩
      exact ⟨byte, rest, rfl, hc, hd, htext⟩
    · rintro ⟨_, _, he, hc, hd, htext⟩
      obtain ⟨rfl, rfl⟩ := List.cons.inj he
      exact ⟨hc, hd, htext⟩

theorem mem_digits_of_mem_encodeChars : ∀ {bytes : List UInt8},
    ∀ c ∈ encodeChars bytes, c ∈ digits
  | [] => List.forall_mem_nil _
  | byte :: rest => by
    rw [encodeChars, List.forall_mem_cons, List.forall_mem_cons]
    exact ⟨digit_mem_digits div_lt, digit_mem_digits mod_lt, mem_digits_of_mem_encodeChars⟩

theorem length_encodeChars : ∀ {bytes : List UInt8}, (encodeChars bytes).length = 2 * bytes.length
  | [] => rfl
  | byte :: rest => by
    rw [encodeChars, List.length_cons, List.length_cons, List.length_cons, length_encodeChars]
    omega

theorem Spells.mem_digits (h : Spells text bytes) : ∀ c ∈ text, c ∈ digits := by
  intro c hc
  have hlower : c.toLower ∈ text.map Char.toLower := List.mem_map_of_mem hc
  rw [h] at hlower
  exact mem_digits_of_toLower (mem_digits_of_mem_encodeChars _ hlower)

theorem Spells.length_eq (h : Spells text bytes) : text.length = 2 * bytes.length := by
  rw [← length_encodeChars, ← h, List.length_map]

/-- Two digits are one byte, for a reader and for a writer. -/
theorem exists_byte (hc : c ∈ digits) (hd : d ∈ digits) : ∃ byte,
    (∀ position, decodePairs position (utf8 (c :: d :: text)) =
      (decodePairs (position + 2) (utf8 text)).map (byte :: ·)) ∧
    ∀ bytes, Spells (c :: d :: text) bytes ↔ ∃ rest, byte :: rest = bytes ∧ Spells text rest := by
  obtain ⟨-, v, hv, hvalue, hcv⟩ := digit_of_mem_digits hc
  obtain ⟨-, w, hw, hvalue', hdw⟩ := digit_of_mem_digits hd
  obtain ⟨hdiv, hmod⟩ := halves hv hw
  refine ⟨v * 16 + w, fun position => ?_, fun bytes => ?_⟩
  · rw [utf8_cons_of_mem hc, utf8_cons_of_mem hd, decodePairs, hvalue, hvalue']
  · rw [spells_cons_cons]
    constructor
    · rintro ⟨byte, rest, rfl, hbyte, hbyte', htext⟩
      obtain rfl := digit_inj hv div_lt (hcv.symm.trans hbyte)
      obtain rfl := digit_inj hw mod_lt (hdw.symm.trans hbyte')
      exact ⟨rest, by rw [div_mul_add_mod], htext⟩
    · rintro ⟨rest, rfl, htext⟩
      exact ⟨_, rest, rfl, by rw [hcv, hdiv], by rw [hdw, hmod], htext⟩

/-- Every text of digits in pairs is that of a byte string. -/
theorem exists_spells : ∀ {text : List Char}, text.length % 2 = 0 → (∀ c ∈ text, c ∈ digits) →
    ∃ bytes, Spells text bytes
  | [], _, _ => ⟨[], rfl⟩
  | [c], hlength, _ => by simp at hlength
  | c :: d :: text, hlength, hdigits => by
    rw [List.forall_mem_cons, List.forall_mem_cons] at hdigits
    obtain ⟨hc, hd, htext⟩ := hdigits
    have heven : text.length % 2 = 0 := by
      rw [List.length_cons, List.length_cons] at hlength
      omega
    obtain ⟨byte, -, hspells⟩ := @exists_byte _ _ text hc hd
    obtain ⟨rest, hrest⟩ := exists_spells heven htext
    exact ⟨byte :: rest, (hspells _).2 ⟨rest, rfl, hrest⟩⟩

theorem exists_spells_iff :
    (∃ bytes, Spells text bytes) ↔ text.length % 2 = 0 ∧ ∀ c ∈ text, c ∈ digits := by
  constructor
  · rintro ⟨bytes, h⟩
    have hlength := h.length_eq
    exact ⟨by omega, h.mem_digits⟩
  · rintro ⟨hlength, hdigits⟩
    exact exists_spells hlength hdigits

/-- No byte string begins with a character that is no digit. -/
theorem decodePairs_ne_ok {position : Nat} (h : c ∉ digits) :
    decodePairs position (utf8 (c :: text)) ≠ .ok bytes := by
  obtain ⟨first, rest, hfirst, hnone⟩ := exists_utf8_cons h
  rw [hfirst]
  intro h
  cases rest with
  | nil => cases h
  | cons second rest =>
    rw [decodePairs, hnone] at h
    cases h

/-- A second digit must follow the first one. -/
theorem decodePairs_cons_ne_ok {position : Nat} (hc : c ∈ digits) (hd : d ∉ digits) :
    decodePairs position (utf8 (c :: d :: text)) ≠ .ok bytes := by
  obtain ⟨first, rest, hfirst, hnone⟩ := exists_utf8_cons hd
  obtain ⟨-, v, hv, hvalue, -⟩ := digit_of_mem_digits hc
  rw [utf8_cons_of_mem hc, hfirst, decodePairs, hvalue, hnone]
  intro h
  cases h

/-- Bytes are read from the texts that spell them, and from no others. -/
theorem decodePairs_utf8 : ∀ {text : List Char} {bytes : List UInt8} {position : Nat},
    decodePairs position (utf8 text) = .ok bytes ↔ Spells text bytes
  | [], bytes, position => by
    rw [spells_nil, utf8, List.flatMap_nil, decodePairs, Except.ok.injEq]
    exact eq_comm
  | [c], bytes, position => by
    refine iff_of_false ?_ not_spells_singleton
    by_cases hc : c ∈ digits
    · rw [utf8_cons_of_mem hc]
      intro h
      cases h
    · exact decodePairs_ne_ok hc
  | c :: d :: text, bytes, position => by
    by_cases hc : c ∈ digits
    · by_cases hd : d ∈ digits
      · obtain ⟨byte, hdecode, hspells⟩ := @exists_byte _ _ text hc hd
        rw [hdecode, hspells]
        simp only [← @decodePairs_utf8 text _ (position + 2)]
        cases decodePairs (position + 2) (utf8 text) <;> simp [Except.map]
      · exact iff_of_false (decodePairs_cons_ne_ok hc hd) fun h => hd (h.mem_digits d (by simp))
    · exact iff_of_false (decodePairs_ne_ok hc) fun h => hc (h.mem_digits c (by simp))

theorem length_utf8 : ∀ {text : List Char}, (∀ c ∈ text, c ∈ digits) →
    (utf8 text).length = text.length
  | [], _ => rfl
  | c :: text, h => by
    obtain ⟨hc, htext⟩ := List.forall_mem_cons.1 h
    rw [utf8_cons_of_mem hc, List.length_cons, List.length_cons, length_utf8 htext]

/-- **A text is read as the bytes that it spells.** -/
theorem decode_eq_ok_iff : decode text = .ok bytes ↔ Spells text bytes := by
  rw [decode, decodeBytes]
  constructor
  · intro h
    split at h
    · cases h
    · exact decodePairs_utf8.1 h
  · intro h
    have hlength := h.length_eq
    rw [length_utf8 h.mem_digits, if_neg (by omega)]
    exact decodePairs_utf8.2 h

theorem stripPrefix?_eq_some_iff {digits : List Char} :
    stripPrefix? text = some digits ↔ text = '0' :: 'x' :: digits := by
  unfold stripPrefix?
  split
  · simp
  · rename_i hnot
    exact iff_of_false (Option.some_ne_none digits).symm (hnot digits)

end BeaconDuties.Hex
