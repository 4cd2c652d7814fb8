import Mathlib.Algebra.Order.Field.Power
import Mathlib.Tactic.FieldSimp
import Mathlib.Tactic.Linarith
import Mathlib.Tactic.NormNum
import Mathlib.Tactic.Positivity
import Mathlib.Tactic.Ring
import BeaconDuties.Report.Text

/-!
How far floating-point numbers are from what they round.

Within the range of normal numbers a quotient is rounded to a finite number whose relative error is
at most one half of the last of 53 places (`Binary64.rounds_ofRatio`), and so are whole numbers,
products and quotients of floating-point numbers. A percentage is rounded four times. That is too
little to show: the percentage of a part is written as 100.00 at most (`Text.exists_percent_eq`).
-/

namespace BeaconDuties

/-! ## Rounding to whole numbers -/

theorem roundDiv_bounds {num den : Nat} (hden : 0 < den) :
    2 * num ≤ 2 * (roundDiv num den * den) + den ∧
      2 * (roundDiv num den * den) ≤ 2 * num + den := by
  have hnum := Nat.div_add_mod' num den
  have hrem := Nat.mod_lt num hden
  rw [roundDiv]
  split
  · omega
  · rw [Nat.add_one_mul (num / den)]
    omega

/-- A quotient is rounded by one half at most. -/
theorem abs_roundDiv_sub_le {num den : Nat} (hden : 0 < den) :
    |(roundDiv num den : ℚ) - num / den| ≤ 1 / 2 := by
  have hd : (0 : ℚ) < den := Nat.cast_pos.2 hden
  obtain ⟨hlow, hhigh⟩ := roundDiv_bounds hden
  have hlow : (2 : ℚ) * num ≤ 2 * (roundDiv num den * den) + den := by exact_mod_cast hlow
  have hhigh : (2 : ℚ) * (roundDiv num den * den) ≤ 2 * num + den := by exact_mod_cast hhigh
  rw [abs_sub_le_iff, sub_le_iff_le_add, sub_le_iff_le_add, ← sub_le_iff_le_add', le_div_iff₀ hd,
    div_le_iff₀ hd]
  constructor
  · linarith
  · linarith

namespace Binary64

variable {num den : Nat} {e : Int}

/-! ## Powers of two -/

theorem scaled_den_pos (hden : 0 < den) : 0 < (scaled num den e).2 := by
  rw [scaled]
  split
  · exact Nat.mul_pos hden (Nat.pow_pos Nat.two_pos)
  · exact hden

/-- A quotient is scaled by a power of two. -/
theorem scaled_eq :
    ((scaled num den e).1 : ℚ) / (scaled num den e).2 = num / den * (2 : ℚ) ^ (-e) := by
  have hpow : ∀ {n : Nat}, ((Nat.pow 2 n : Nat) : ℚ) = (2 : ℚ) ^ (n : ℤ) := by
    intro n
    rw [zpow_natCast]
    exact Nat.cast_pow 2 n
  rw [scaled]
  split
  · next he =>
    rw [Nat.cast_mul, hpow, Int.toNat_of_nonneg he, zpow_neg, div_mul_eq_div_div, div_eq_mul_inv]
  · next he =>
    rw [Nat.cast_mul, hpow, Int.toNat_of_nonneg (by omega), mul_div_right_comm]

/-- The power of two at or before a quotient. -/
theorem log2Ratio_spec (hnum : 0 < num) (hden : 0 < den) :
    (2 : ℚ) ^ log2Ratio num den ≤ num / den ∧ num / den < (2 : ℚ) ^ (log2Ratio num den + 1) := by
  have hd : (0 : ℚ) < den := Nat.cast_pos.2 hden
  have hlow : (2 : ℚ) ^ ((num.log2 : ℤ) - den.log2 - 1) ≤ num / den := by
    have hn : (2 : ℚ) ^ num.log2 ≤ num := by exact_mod_cast Nat.log2_self_le hnum.ne'
    have hd' : (den : ℚ) ≤ 2 ^ (den.log2 + 1) := by exact_mod_cast Nat.lt_log2_self.le
    rw [le_div_iff₀ hd, sub_sub, zpow_sub₀ two_ne_zero, div_mul_eq_mul_div,
      div_le_iff₀ (by positivity)]
    exact mul_le_mul hn hd' hd.le (by positivity)
  have hhigh : num / den < (2 : ℚ) ^ ((num.log2 : ℤ) - den.log2 + 1) := by
    have hn : (num : ℚ) < 2 ^ (num.log2 + 1) := by exact_mod_cast Nat.lt_log2_self
    have hd' : (2 : ℚ) ^ den.log2 ≤ den := by exact_mod_cast Nat.log2_self_le hden.ne'
    rw [div_lt_iff₀ hd, sub_add_eq_add_sub, zpow_sub₀ two_ne_zero, div_mul_eq_mul_div,
      lt_div_iff₀ (by positivity)]
    exact mul_lt_mul hn hd' (by positivity) (by positivity)
  -- the quotient is compared with the power of two that it is next to
  have hle : (scaled num den (num.log2 - den.log2)).2 ≤ (scaled num den (num.log2 - den.log2)).1 ↔
      (2 : ℚ) ^ ((num.log2 : ℤ) - den.log2) ≤ num / den := by
    have hden' : (0 : ℚ) < (scaled num den (num.log2 - den.log2)).2 :=
      Nat.cast_pos.2 (scaled_den_pos hden)
    rw [← Nat.cast_le (α := ℚ), ← one_le_div hden', scaled_eq, zpow_neg, ← div_eq_mul_inv,
      one_le_div (by positivity)]
  rw [log2Ratio]
  dsimp only
  by_cases h : (2 : ℚ) ^ ((num.log2 : ℤ) - den.log2) ≤ num / den
  · rw [if_pos (hle.2 h)]
    exact ⟨h, hhigh⟩
  · rw [if_neg (mt hle.1 h), sub_add_cancel]
    exact ⟨hlow, not_le.1 h⟩

/-! ## Rounding to floating-point numbers -/

/-- A normal number by its bit pattern. -/
theorem parts_of_normal {field fraction : Nat} (hpos : 0 < field) (hfield : field < 2047)
    (hfraction : fraction < Nat.pow 2 52) :
    (⟨UInt64.ofNat (field * Nat.pow 2 52 + fraction)⟩ : Binary64).parts =
      .finite false (fraction + Nat.pow 2 52) ((field : Int) - 1075) := by
  have h52 : Nat.pow 2 52 = 4503599627370496 := rfl
  have h11 : Nat.pow 2 11 = 2048 := rfl
  have h63 : Nat.pow 2 63 = 9223372036854775808 := rfl
  rw [h52] at hfraction ⊢
  have hn : (UInt64.ofNat (field * 4503599627370496 + fraction)).toNat =
      field * 4503599627370496 + fraction := by
    rw [UInt64.toNat_ofNat', Nat.mod_eq_of_lt (by omega)]
  have hdiv : (field * 4503599627370496 + fraction) / Nat.pow 2 52 % Nat.pow 2 11 = field := by
    rw [h52, h11]
    omega
  have hmod : (field * 4503599627370496 + fraction) % Nat.pow 2 52 = fraction := by
    rw [h52]
    omega
  have hsign : ¬ Nat.pow 2 63 ≤ field * 4503599627370496 + fraction := by
    rw [h63]
    omega
  rw [parts, hn, hdiv, hmod, if_neg hfield.ne, if_neg hpos.ne', decide_eq_false hsign]

/-- The value of a number that is finite and not negative. -/
def value (x : Binary64) : ℚ := (x.ratio.1 : ℚ) / x.ratio.2

theorem value_of_parts {x : Binary64} {negative : Bool} {mantissa : Nat} {exponent : Int}
    (h : x.parts = .finite negative mantissa exponent) :
    x.value = mantissa * (2 : ℚ) ^ exponent := by
  rw [value, ratio, h]
  dsimp only
  rw [scaled_eq, Nat.cast_one, div_one, neg_neg]

/-- A number is what a positive number is rounded to: it is finite, and not further away than one
    half of the last place. -/
structure Rounds (x : Binary64) (q : ℚ) : Prop where
  finite : ∃ mantissa exponent, x.parts = .finite false mantissa exponent
  near : |x.value - q| ≤ q / 2 ^ 53

/-- The number that a rounded mantissa is packed into, which may have reached the next power of
    two. -/
theorem parts_of_pattern {mantissa : Nat} (hlow : Nat.pow 2 52 ≤ mantissa)
    (hhigh : mantissa ≤ Nat.pow 2 53) (he : -1074 ≤ e) (he' : e ≤ 970) :
    ∃ m exponent, (⟨UInt64.ofNat ((e + 1074).toNat * Nat.pow 2 52 + mantissa)⟩ : Binary64).parts =
        .finite false m exponent ∧
      (m : ℚ) * (2 : ℚ) ^ exponent = mantissa * (2 : ℚ) ^ e := by
  have h52 : Nat.pow 2 52 = 4503599627370496 := rfl
  have h53 : Nat.pow 2 53 = 9007199254740992 := rfl
  rw [h52] at hlow
  rw [h53] at hhigh
  by_cases hnext : mantissa = 9007199254740992
  · have hpattern : (e + 1074).toNat * Nat.pow 2 52 + mantissa =
        ((e + 1074).toNat + 2) * Nat.pow 2 52 + 0 := by
      rw [hnext, h52]
      omega
    rw [hpattern, parts_of_normal (by omega) (by omega) (by decide)]
    have hexponent : (((e + 1074).toNat + 2 : Nat) : Int) - 1075 = e + 1 := by omega
    refine ⟨_, _, rfl, ?_⟩
    rw [hexponent, h52, hnext, zpow_add_one₀ two_ne_zero]
    push_cast
    ring
  · have hpattern : (e + 1074).toNat * Nat.pow 2 52 + mantissa =
        ((e + 1074).toNat + 1) * Nat.pow 2 52 + (mantissa - Nat.pow 2 52) := by
      rw [h52]
      omega
    rw [hpattern, parts_of_normal (by omega) (by omega) (by rw [h52]; omega)]
    have hexponent : (((e + 1074).toNat + 1 : Nat) : Int) - 1075 = e := by omega
    refine ⟨_, _, rfl, ?_⟩
    rw [hexponent, Nat.sub_add_cancel hlow]

/-- The exponent of a quotient whose mantissa has 53 places. -/
def placeOf (num den : Nat) : Int := log2Ratio num den - 52

/-- The mantissa of 53 places to which a quotient is rounded. -/
def mantissaOf (num den : Nat) : Nat :=
  let (n, d) := scaled num den (placeOf num den)
  roundDiv n d

/-- The scaled quotient lies between the powers of two that a mantissa lies between. -/
theorem quotient_bounds (hnum : 0 < num) (hden : 0 < den) :
    (2 : ℚ) ^ 52 ≤ num / den / 2 ^ placeOf num den ∧
      num / den / 2 ^ placeOf num den < (2 : ℚ) ^ 53 := by
  obtain ⟨hlog, hlog'⟩ := log2Ratio_spec hnum hden
  have h52 : ((52 : Nat) : Int) + placeOf num den = log2Ratio num den := by rw [placeOf]; omega
  have h53 : ((53 : Nat) : Int) + placeOf num den = log2Ratio num den + 1 := by
    rw [placeOf]
    omega
  constructor
  · rwa [le_div_iff₀ (by positivity), ← zpow_natCast, ← zpow_add₀ two_ne_zero, h52]
  · rwa [div_lt_iff₀ (by positivity), ← zpow_natCast, ← zpow_add₀ two_ne_zero, h53]

theorem abs_mantissaOf_sub_le (hden : 0 < den) :
    |(mantissaOf num den : ℚ) - num / den / 2 ^ placeOf num den| ≤ 1 / 2 := by
  have hround := @abs_roundDiv_sub_le (scaled num den (placeOf num den)).1 _
    (@scaled_den_pos num den (placeOf num den) hden)
  rwa [scaled_eq, zpow_neg, ← div_eq_mul_inv] at hround

theorem mantissaOf_spec (hnum : 0 < num) (hden : 0 < den) :
    Nat.pow 2 52 ≤ mantissaOf num den ∧ mantissaOf num den ≤ Nat.pow 2 53 ∧
      |mantissaOf num den * (2 : ℚ) ^ placeOf num den - num / den| ≤ num / den / 2 ^ 53 := by
  obtain ⟨hq, hq'⟩ := quotient_bounds hnum hden
  have hround := @abs_mantissaOf_sub_le num den hden
  generalize placeOf num den = e at *
  generalize mantissaOf num den = r at *
  have hpow : (0 : ℚ) < (2 : ℚ) ^ e := by positivity
  obtain ⟨hbelow, habove⟩ := abs_sub_le_iff.1 hround
  refine ⟨?_, ?_, ?_⟩
  · have : ((Nat.pow 2 52 : Nat) : ℚ) < r + 1 := by
      rw [Nat.pow_eq, Nat.cast_pow, Nat.cast_ofNat]
      linarith
    exact Nat.lt_succ_iff.1 (by exact_mod_cast this)
  · have : (r : ℚ) < (Nat.pow 2 53 : Nat) + 1 := by
      rw [Nat.pow_eq, Nat.cast_pow, Nat.cast_ofNat]
      linarith
    exact Nat.lt_succ_iff.1 (by exact_mod_cast this)
  · have hle : (2 : ℚ) ^ e ≤ num / den / 2 ^ 52 := by
      rwa [le_div_iff₀ (by positivity), mul_comm, ← le_div_iff₀ hpow]
    calc |(r : ℚ) * 2 ^ e - num / den|
        = |(r : ℚ) - num / den / 2 ^ e| * 2 ^ e := by
          rw [← abs_of_pos hpow, ← abs_mul, abs_of_pos hpow, sub_mul, div_mul_cancel₀ _ hpow.ne']
      _ ≤ 1 / 2 * 2 ^ e := mul_le_mul_of_nonneg_right hround hpow.le
      _ ≤ 1 / 2 * (num / den / 2 ^ 52) := mul_le_mul_of_nonneg_left hle (by norm_num)
      _ = num / den / 2 ^ 53 := by ring

/-- In the range of normal numbers, a quotient is rounded to the nearest number. -/
theorem rounds_ofRatio (hnum : 0 < num) (hden : 0 < den)
    (hlow : (2 : ℚ) ^ (-1022 : ℤ) ≤ num / den) (hhigh : num / den < (2 : ℚ) ^ (1023 : ℤ)) :
    (ofRatio num den).Rounds (num / den) := by
  obtain ⟨hlog, hlog'⟩ := log2Ratio_spec hnum hden
  obtain ⟨hm52, hm53, hnear⟩ := mantissaOf_spec hnum hden
  have hk : -1022 < log2Ratio num den + 1 :=
    (zpow_lt_zpow_iff_right₀ one_lt_two).1 (hlow.trans_lt hlog')
  have hk' : log2Ratio num den < 1023 :=
    (zpow_lt_zpow_iff_right₀ one_lt_two).1 (hlog.trans_lt hhigh)
  have he : -1074 ≤ placeOf num den := by rw [placeOf]; omega
  have he' : placeOf num den ≤ 970 := by rw [placeOf]; omega
  obtain ⟨m, exponent, hparts, hvalue⟩ := parts_of_pattern hm52 hm53 he he'
  have hpattern : ofRatio num den =
      ⟨UInt64.ofNat ((placeOf num den + 1074).toNat * Nat.pow 2 52 + mantissaOf num den)⟩ := by
    have hmax : max (-1074) (log2Ratio num den - 52) = placeOf num den := max_eq_right he
    have hmin : (placeOf num den + 1074).toNat * Nat.pow 2 52 + mantissaOf num den ≤
        2047 * Nat.pow 2 52 := by
      have hplace : (placeOf num den + 1074).toNat ≤ 2044 := by omega
      calc (placeOf num den + 1074).toNat * Nat.pow 2 52 + mantissaOf num den
          ≤ 2044 * Nat.pow 2 52 + 2 * Nat.pow 2 52 :=
            Nat.add_le_add (Nat.mul_le_mul_right _ hplace) hm53
        _ ≤ 2047 * Nat.pow 2 52 := by decide
    rw [ofRatio, if_neg hnum.ne', hmax]
    exact congrArg _ (congrArg _ (min_eq_left hmin))
  rw [← hpattern] at hparts
  refine ⟨⟨m, exponent, hparts⟩, ?_⟩
  rwa [value_of_parts hparts, hvalue]

/-! ## Rounding step by step -/

variable {x y : Binary64} {q : ℚ} {n : Nat}

/-- A number that is neither very small nor very large. -/
structure Moderate (q : ℚ) : Prop where
  low : 1 / 2 ^ 100 ≤ q
  high : q ≤ 2 ^ 100

/-- Moderate quotients are rounded to the nearest number. -/
theorem rounds_of_moderate (hnum : 0 < num) (hden : 0 < den) (hq : Moderate (num / den)) :
    (ofRatio num den).Rounds (num / den) := by
  refine rounds_ofRatio hnum hden (le_trans ?_ hq.low) (hq.high.trans_lt ?_)
  · rw [one_div, ← zpow_natCast, ← zpow_neg]
    exact zpow_le_zpow_right₀ one_le_two (by decide)
  · rw [← zpow_natCast]
    exact zpow_lt_zpow_right₀ one_lt_two (by decide)

theorem rounds_ofNat (hn : 0 < n) (hn' : n < Nat.pow 2 64) : (ofNat n).Rounds n := by
  have hlow : (1 : ℚ) ≤ n := by exact_mod_cast hn
  have hhigh : (n : ℚ) < 2 ^ 64 := by exact_mod_cast hn'
  have hq : Moderate ((n : ℚ) / (1 : Nat)) := by
    rw [Nat.cast_one, div_one]
    exact ⟨le_trans (by norm_num) hlow, hhigh.le.trans (by norm_num)⟩
  have h := rounds_of_moderate hn Nat.one_pos hq
  rwa [Nat.cast_one, div_one] at h

theorem ratio_pos (hx : 0 < x.value) : 0 < x.ratio.1 ∧ 0 < x.ratio.2 := by
  refine ⟨Nat.pos_of_ne_zero fun h => ?_, Nat.pos_of_ne_zero fun h => ?_⟩
  · rw [value, h, Nat.cast_zero, zero_div] at hx
    exact lt_irrefl _ hx
  · rw [value, h, Nat.cast_zero, div_zero] at hx
    exact lt_irrefl _ hx

theorem rounds_mul (hx : 0 < x.value) (hy : 0 < y.value) (hq : Moderate (x.value * y.value)) :
    (x.mul y).Rounds (x.value * y.value) := by
  obtain ⟨ha, hb⟩ := ratio_pos hx
  obtain ⟨hc, hd⟩ := ratio_pos hy
  have hvalue : x.value * y.value =
      ((x.ratio.1 * y.ratio.1 : Nat) : ℚ) / (x.ratio.2 * y.ratio.2 : Nat) := by
    rw [value, value, div_mul_div_comm, Nat.cast_mul, Nat.cast_mul]
  rw [hvalue] at hq ⊢
  exact rounds_of_moderate (Nat.mul_pos ha hc) (Nat.mul_pos hb hd) hq

theorem rounds_div (hx : 0 < x.value) (hy : 0 < y.value) (hq : Moderate (x.value / y.value)) :
    (x.div y).Rounds (x.value / y.value) := by
  obtain ⟨ha, hb⟩ := ratio_pos hx
  obtain ⟨hc, hd⟩ := ratio_pos hy
  have hvalue : x.value / y.value =
      ((x.ratio.1 * y.ratio.2 : Nat) : ℚ) / (x.ratio.2 * y.ratio.1 : Nat) := by
    rw [value, value, div_div_div_eq, Nat.cast_mul, Nat.cast_mul]
  rw [hvalue] at hq ⊢
  exact rounds_of_moderate (Nat.mul_pos ha hd) (Nat.mul_pos hb hc) hq

/-- A rounded number is off by less than one in a million. -/
theorem Rounds.bounds (h : x.Rounds q) (hq : 0 < q) :
    q * (1 - 1 / 1000000) ≤ x.value ∧ x.value ≤ q * (1 + 1 / 1000000) := by
  obtain ⟨habove, hbelow⟩ := abs_sub_le_iff.1 h.near
  have hsmall : q / 2 ^ 53 ≤ q / 1000000 := by
    gcongr
    norm_num
  constructor
  · linarith
  · linarith

theorem mul_eq : x.mul y = ofRatio (x.ratio.1 * y.ratio.1) (x.ratio.2 * y.ratio.2) := rfl

theorem div_eq : x.div y = ofRatio (x.ratio.1 * y.ratio.2) (x.ratio.2 * y.ratio.1) := rfl

theorem ofRatio_zero : ofRatio 0 den = zero := if_pos rfl

theorem parts_zero : zero.parts = .finite false 0 (-1074) := by decide

end Binary64

/-! ## Percentages -/

namespace Text

open Binary64

variable {part whole : Nat}

theorem percentage_zero : percentage 0 whole = .zero := by
  have hratio : Binary64.zero.ratio.1 = 0 := by decide +kernel
  have hmul : ∀ x : Binary64, x.mul .zero = .zero := fun x => by
    rw [mul_eq, hratio, Nat.mul_zero, ofRatio_zero]
  have hdiv : ∀ x : Binary64, Binary64.zero.div x = .zero := fun x => by
    rw [div_eq, hratio, Nat.zero_mul, ofRatio_zero]
  have hzero : Binary64.ofNat 0 = .zero := ofRatio_zero
  rw [percentage, hzero, hmul, hdiv, ite_self]

/-- The percentage of a part exceeds 100 by no more than rounding can. -/
theorem percentage_le (hpart : 0 < part) (hle : part ≤ whole) (hwhole : whole < Nat.pow 2 64) :
    (∃ mantissa exponent, (percentage part whole).parts = .finite false mantissa exponent) ∧
      (percentage part whole).value ≤ 100 + 1 / 1000 := by
  have hpos : (0 : ℚ) < part := Nat.cast_pos.2 hpart
  have hone : (1 : ℚ) ≤ part := by exact_mod_cast hpart
  have hcast : (part : ℚ) ≤ whole := by exact_mod_cast hle
  have hmax : (whole : ℚ) < 2 ^ 64 := by exact_mod_cast hwhole
  have hhundred := (@rounds_ofNat 100 (by decide) (by decide)).bounds (by norm_num)
  have hp := (rounds_ofNat hpart (hle.trans_lt hwhole)).bounds hpos
  have hw := (rounds_ofNat (hpart.trans_le hle) hwhole).bounds (hpos.trans_le hcast)
  rw [percentage, if_neg (hpart.trans_le hle).ne']
  generalize Binary64.ofNat 100 = h at *
  generalize Binary64.ofNat part = p at *
  generalize Binary64.ofNat whole = w at *
  push_cast at hhundred
  -- the product, which lies between 99 and 101 times the part
  have hlow : 99 * (part : ℚ) ≤ h.value * p.value := by nlinarith
  have hhigh : h.value * p.value ≤ (100 + 1 / 4000) * part := by nlinarith
  have hm := (@rounds_mul h p (by linarith) (by linarith) ⟨by linarith, by linarith⟩).bounds
    (by linarith)
  generalize h.mul p = m at *
  -- the quotient of at most the whole
  have hquotient : m.value / w.value ≤ 100 + 1 / 2000 := by
    rw [div_le_iff₀ (by linarith)]
    linarith
  have hquotient' : 1 / 2 ^ 70 ≤ m.value / w.value := by
    rw [le_div_iff₀ (by linarith)]
    linarith
  have hq := @rounds_div m w (by linarith) (by linarith) ⟨by linarith, by linarith⟩
  refine ⟨hq.finite, ?_⟩
  have := (hq.bounds (by linarith)).2
  linarith

/-- The percentage of a part is written as 100.00 at most, in units of the last place. -/
theorem exists_percent_eq (hle : part ≤ whole) (hwhole : whole < Nat.pow 2 64) :
    ∃ units ≤ 10000, percent part whole = Places.renderUnits 2 units := by
  obtain ⟨⟨mantissa, exponent, hparts⟩, hvalue⟩ :
      (∃ mantissa exponent, (percentage part whole).parts = .finite false mantissa exponent) ∧
        (percentage part whole).value ≤ 100 + 1 / 1000 := by
    rcases Nat.eq_zero_or_pos part with rfl | hpart
    · rw [percentage_zero]
      refine ⟨⟨_, _, parts_zero⟩, ?_⟩
      rw [value_of_parts parts_zero, Nat.cast_zero, zero_mul]
      norm_num
    · exact percentage_le hpart hle hwhole
  refine ⟨Places.digits 2 mantissa exponent, ?_, ?_⟩
  · rw [value_of_parts hparts] at hvalue
    have hround := (abs_sub_le_iff.1 (@abs_roundDiv_sub_le
      ((scaled mantissa 1 (-exponent)).1 * Nat.pow 10 2) _
      (@scaled_den_pos mantissa 1 (-exponent) Nat.one_pos))).1
    have hunits : (((scaled mantissa 1 (-exponent)).1 * Nat.pow 10 2 : Nat) : ℚ) /
        (scaled mantissa 1 (-exponent)).2 = mantissa * 2 ^ exponent * 100 := by
      rw [Nat.cast_mul, mul_div_right_comm, scaled_eq, Nat.cast_one, div_one, neg_neg]
      norm_num
    rw [hunits] at hround
    have hlt : (Places.digits 2 mantissa exponent : ℚ) < 10000 + 1 := by
      rw [Places.digits]
      linarith
    exact Nat.lt_succ_iff.1 (by exact_mod_cast hlt)
  · rw [percent, Places.render, hparts]
    rfl

end Text

end BeaconDuties
