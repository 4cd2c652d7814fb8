import BeaconDuties.Command.EpochSelector
import BeaconDuties.Proofs.Text.Numeral

/-!
Which texts name an epoch, and which one.

* `EpochSelector.Names` is the grammar: a few words, a number, or a minus sign and a number of
  epochs to go back, which may be zero.
* `EpochSelector.Overread` tells the other texts that are read. Numerals may have a plus sign, and
  so may the numbers here, also after a minus sign.
* `EpochSelector.read_names`: these are all the texts that are read, and each is read as the epoch
  that it names.
-/

namespace BeaconDuties.EpochSelector

open Numeral (Spells readChars readChars_eq_ok_iff)

/-- Whether a text names an epoch, when `current` is the current one. -/
inductive Names (current : Nat) (text : String) : Nat → Prop
  | now (h : text ∈ ["", "current", "head"]) : Names current text current
  | last (h : text = "last") : Names current text (current - 1)
  | number {n : UInt64} (h : Spells text.toList n) : Names current text n.toNat
  | ago {digits : List Char} {n : UInt64} (htext : text.toList = '-' :: digits)
    (h : Spells digits n) : Names current text (current - n.toNat)

/-- Whether a text would name an epoch without the plus sign before its digits. -/
inductive Overread (current : Nat) (text : String) : Nat → Prop
  | number {digits : List Char} {n : UInt64} (htext : text.toList = '+' :: digits)
    (h : Spells digits n) : Overread current text n.toNat
  | ago {digits : List Char} {n : UInt64} (htext : text.toList = '-' :: '+' :: digits)
    (h : Spells digits n) : Overread current text (current - n.toNat)

variable {current epoch : Epoch} {text : String} {digits : List Char} {n : UInt64}
  {selector : EpochSelector}

/-! ## Texts that are read -/

/-- The texts that are read as a whole. -/
def words : List String := ["", "current", "head", "-0", "last"]

section

variable (h : text ∉ words)

include h

theorem read_of_minus (htext : text.toList = '-' :: digits) :
    read text = (readChars digits).map back := by
  simp only [words, List.mem_cons, List.not_mem_nil, or_false, not_or] at h
  rw [read, if_neg (by simp [h]), if_neg h.2.2.2.2, htext]
  rfl

theorem read_of_no_minus (htext : ∀ digits, text.toList ≠ '-' :: digits) :
    read text = (readChars text.toList).map absolute := by
  simp only [words, List.mem_cons, List.not_mem_nil, or_false, not_or] at h
  rw [read, if_neg (by simp [h]), if_neg h.2.2.2.2]
  split
  · next digits hminus => exact absurd hminus (htext digits)
  · rfl

end

/-- A numeral begins with a digit or with a plus sign, as no word does. -/
theorem head_of_readChars (h : readChars digits = .ok n) :
    ∃ c cs, digits = c :: cs ∧ (c = '+' ∨ c.isDigit) := by
  rcases readChars_eq_ok_iff.1 h with hdigits | ⟨cs, rfl, -⟩
  · obtain ⟨c, cs, rfl⟩ := List.exists_cons_of_ne_nil hdigits.ne_nil
    exact ⟨c, cs, rfl, .inr (hdigits.isDigit c List.mem_cons_self)⟩
  · exact ⟨'+', cs, rfl, .inl rfl⟩

theorem read_number (h : readChars text.toList = .ok n) : read text = .ok (absolute n) := by
  obtain ⟨c, cs, hcs, hc⟩ := head_of_readChars h
  have hword : text ∉ words := by
    intro hmem
    have hhead : ∀ word ∈ words, word.toList.head?.all fun c => c != '+' && !c.isDigit := by
      decide
    have hfirst := hhead text hmem
    rw [hcs] at hfirst
    rcases hc with rfl | hdigit
    · cases hfirst
    · simp [hdigit] at hfirst
  have hminus : ∀ digits, text.toList ≠ '-' :: digits := by
    intro digits htext
    obtain ⟨rfl, -⟩ := List.cons.inj (hcs.symm.trans htext)
    exact absurd hc (by decide)
  rw [read_of_no_minus hword hminus, h]
  rfl

/-- Going back no epoch at all is the current one, whether by a word or by a number. -/
theorem exists_read_ago (htext : text.toList = '-' :: digits) (h : readChars digits = .ok n) :
    ∃ selector, read text = .ok selector ∧
      (selector.resolve current).toNat = current.toNat - n.toNat := by
  obtain ⟨c, cs, rfl, hc⟩ := head_of_readChars h
  by_cases hzero : text = "-0"
  · subst hzero
    obtain ⟨rfl, rfl⟩ : '0' = c ∧ [] = cs := by simpa using htext
    have hn : n = 0 := (Except.ok.inj h).symm
    exact ⟨.current, rfl, by rw [hn]; rfl⟩
  · have hword : text ∉ words := by
      have hsigned : ∀ word ∈ words, word ≠ "-0" → word.toList.head? ≠ some '-' := by decide
      intro hmem
      exact hsigned text hmem hzero (by rw [htext]; rfl)
    exact ⟨back n, by rw [read_of_minus hword htext, h]; rfl, toNat_satSub current n⟩

/-- The ways in which a text is read. -/
theorem cases_of_read (h : read text = .ok selector) :
    (selector = .current ∧ text ∈ ["", "current", "head", "-0"]) ∨
    (selector = .last ∧ text = "last") ∨
    (∃ n, selector = .absolute n ∧ readChars text.toList = .ok n) ∨
    ∃ digits n, selector = .back n ∧ text.toList = '-' :: digits ∧ readChars digits = .ok n := by
  have hmap {cs : List Char} {f : UInt64 → EpochSelector}
      (h : (readChars cs).map f = .ok selector) : ∃ n, selector = f n ∧ readChars cs = .ok n := by
    cases hread : readChars cs with
    | error fault =>
      rw [hread] at h
      cases h
    | ok n =>
      rw [hread] at h
      exact ⟨n, (Except.ok.inj h).symm, rfl⟩
  rw [read] at h
  split at h
  · next hword => exact .inl ⟨(Except.ok.inj h).symm, by simpa using hword⟩
  · split at h
    · next hlast => exact .inr (.inl ⟨(Except.ok.inj h).symm, hlast⟩)
    · split at h
      · next digits htext =>
        obtain ⟨n, hn, hread⟩ := hmap h
        exact .inr (.inr (.inr ⟨digits, n, hn, htext, hread⟩))
      · exact .inr (.inr (.inl (hmap h)))

/-! ## The grammar -/

theorem names_or_overread (h : read text = .ok selector) :
    Names current.toNat text (selector.resolve current).toNat ∨
      Overread current.toNat text (selector.resolve current).toNat := by
  rcases cases_of_read h with ⟨rfl, hword⟩ | ⟨rfl, rfl⟩ | ⟨n, rfl, hread⟩ |
    ⟨digits, n, rfl, htext, hread⟩
  · by_cases hzero : text = "-0"
    · subst hzero
      exact .inl (.ago (n := 0) rfl ⟨by decide, List.all_eq_true.1 rfl, rfl⟩)
    · exact .inl (.now (by simpa [hzero] using hword))
  · rw [resolve, toNat_satSub]
    exact .inl (.last rfl)
  · rcases readChars_eq_ok_iff.1 hread with hdigits | ⟨digits, htext, hdigits⟩
    · exact .inl (.number hdigits)
    · exact .inr (.number htext hdigits)
  · rw [resolve, toNat_satSub]
    rcases readChars_eq_ok_iff.1 hread with hdigits | ⟨rest, rfl, hdigits⟩
    · exact .inl (.ago htext hdigits)
    · exact .inr (.ago htext hdigits)

theorem Names.exists_read {meant : Nat} (h : Names current.toNat text meant) :
    ∃ selector, read text = .ok selector ∧ (selector.resolve current).toNat = meant := by
  cases h with
  | now hword =>
    have hread : read text = .ok .current := by
      simp only [List.mem_cons, List.not_mem_nil, or_false] at hword
      rcases hword with rfl | rfl | rfl <;> rfl
    exact ⟨.current, hread, rfl⟩
  | last hlast =>
    subst hlast
    exact ⟨.last, rfl, toNat_satSub current 1⟩
  | number hdigits => exact ⟨_, read_number (readChars_eq_ok_iff.2 (.inl hdigits)), rfl⟩
  | ago htext hdigits => exact exists_read_ago htext (readChars_eq_ok_iff.2 (.inl hdigits))

theorem Overread.exists_read {taken : Nat} (h : Overread current.toNat text taken) :
    ∃ selector, read text = .ok selector ∧ (selector.resolve current).toNat = taken := by
  cases h with
  | number htext hdigits =>
    exact ⟨_, read_number (readChars_eq_ok_iff.2 (.inr ⟨_, htext, hdigits⟩)), rfl⟩
  | ago htext hdigits =>
    exact exists_read_ago htext (readChars_eq_ok_iff.2 (.inr ⟨_, rfl, hdigits⟩))

/-- Nothing that names an epoch has a plus sign. -/
theorem Names.plus_not_mem {now meant : Nat} (h : Names now text meant) :
    '+' ∉ text.toList := by
  have hdigit {cs : List Char} {n : UInt64} (h : Spells cs n) : '+' ∉ cs :=
    fun hplus => absurd (h.isDigit '+' hplus) (by decide)
  cases h with
  | now hword =>
    have hwords : ∀ word ∈ ["", "current", "head"], '+' ∉ word.toList := by decide
    exact hwords text hword
  | last hlast =>
    subst hlast
    decide
  | number hdigits => exact hdigit hdigits
  | ago htext hdigits =>
    rw [htext, List.mem_cons, not_or]
    exact ⟨by decide, hdigit hdigits⟩

theorem Overread.plus_mem {now taken : Nat} (h : Overread now text taken) :
    '+' ∈ text.toList := by
  cases h with
  | number htext | ago htext => simp [htext]

/-- **The names of epochs are read, and little else.** A text is read as an epoch exactly if it
    names this epoch, or would name it without a plus sign before its digits; and no text is
    both. -/
theorem read_names (text : String) (current epoch : Epoch) :
    ((∃ selector, read text = .ok selector ∧ selector.resolve current = epoch) ↔
      Names current.toNat text epoch.toNat ∨ Overread current.toNat text epoch.toNat) ∧
    ∀ meant taken, Names current.toNat text meant → ¬ Overread current.toNat text taken := by
  refine ⟨⟨?_, ?_⟩, fun _ _ h hover => h.plus_not_mem hover.plus_mem⟩
  · rintro ⟨selector, hread, rfl⟩
    exact names_or_overread hread
  · intro h
    obtain ⟨selector, hread, hresolve⟩ := h.elim Names.exists_read Overread.exists_read
    exact ⟨selector, hread, UInt64.toNat_inj.1 hresolve⟩

/-- Before epoch 0 there is none to go back to. -/
theorem read_names_minus_threeHundred :
    (∃ selector, read "-300" = .ok selector ∧ selector.resolve 100 = 0) ∧
      ¬ Overread 100 "-300" 0 := by
  have hnames : Names 100 "-300" 0 :=
    .ago (n := 300) rfl ⟨by decide, List.all_eq_true.1 rfl, rfl⟩
  obtain ⟨hiff, hdisjoint⟩ := read_names "-300" 100 0
  exact ⟨hiff.2 (.inl hnames), hdisjoint 0 0 hnames⟩

/-- A second sign after the minus sign is read, though it names no epoch. -/
theorem read_minus_plus_three :
    read "-+3" = .ok (.back 3) ∧ ∀ current meant, ¬ Names current "-+3" meant :=
  ⟨rfl, fun _ _ h => h.plus_not_mem (by decide)⟩

end BeaconDuties.EpochSelector
