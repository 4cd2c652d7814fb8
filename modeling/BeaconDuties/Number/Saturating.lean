/-!
Arithmetic on 64-bit numbers that stops at the ends of their range.

Slots, epochs and times are 64-bit numbers, and a far-future epoch is the largest of them, so sums
and products of them need not fit.

* `satAdd`, `satMul` and `satSub` stop at the largest number and at zero, so that no argument makes
  them fail; `toNat_satAdd`, `toNat_satMul` and `toNat_satSub` give their values.
* `checkedSum` adds a list of them, `checkedCount` a list of counts, and both answer `none` when the
  total does not fit (`fitted`).
-/

namespace BeaconDuties

/-- The largest 64-bit number, which also stands for "never" where an epoch is expected. -/
def farFuture : UInt64 := 18446744073709551615

/-- The sum, or the largest number if the sum does not fit. -/
def satAdd (a b : UInt64) : UInt64 := .ofNatClamp (a.toNat + b.toNat)

/-- The product, or the largest number if the product does not fit. -/
def satMul (a b : UInt64) : UInt64 := .ofNatClamp (a.toNat * b.toNat)

/-- The difference, or zero if `b` is the larger. -/
def satSub (a b : UInt64) : UInt64 := .ofNatClamp (a.toNat - b.toNat)

theorem toNat_ofNatClamp (n : Nat) : (UInt64.ofNatClamp n).toNat = min n (UInt64.size - 1) := by
  unfold UInt64.ofNatClamp
  split
  · rename_i h
    simp only [UInt64.size] at h ⊢
    simp only [UInt64.toNat_ofNatLT]
    omega
  · rename_i h
    simp only [UInt64.size] at h ⊢
    simp only [UInt64.toNat_ofNatLT]
    omega

theorem toNat_satAdd (a b : UInt64) :
    (satAdd a b).toNat = min (a.toNat + b.toNat) (UInt64.size - 1) :=
  toNat_ofNatClamp _

theorem toNat_satMul (a b : UInt64) :
    (satMul a b).toNat = min (a.toNat * b.toNat) (UInt64.size - 1) :=
  toNat_ofNatClamp _

theorem toNat_satSub (a b : UInt64) : (satSub a b).toNat = a.toNat - b.toNat := by
  have h := toNat_ofNatClamp (a.toNat - b.toNat)
  have ha := a.toNat_lt
  simp only [UInt64.size] at h
  unfold satSub
  omega

/-- A number, or `none` if it does not fit in 64 bits. -/
def fitted (n : Nat) : Option UInt64 := if n < UInt64.size then some (UInt64.ofNat n) else none

theorem fitted_eq_some_iff {n : Nat} {number : UInt64} :
    fitted n = some number ↔ n = number.toNat := by
  unfold fitted
  constructor
  · intro h
    split at h
    · next hn =>
      cases h
      exact (UInt64.toNat_ofNat_of_lt' hn).symm
    · cases h
  · rintro rfl
    rw [if_pos number.toNat_lt, UInt64.ofNat_toNat]

theorem fitted_eq_none_iff {n : Nat} : fitted n = none ↔ UInt64.size ≤ n := by
  unfold fitted
  split
  · next h => exact iff_of_false nofun (Nat.not_le.2 h)
  · next h => exact iff_of_true rfl (Nat.not_lt.1 h)

/-- The total of a list of numbers, or `none` if it does not fit in 64 bits. -/
def checkedSum (numbers : List UInt64) : Option UInt64 :=
  fitted (numbers.foldl (fun total n => total + n.toNat) 0)

/-- The total of a list of counts, or `none` if it does not fit in 64 bits. -/
def checkedCount (counts : List Nat) : Option UInt64 :=
  fitted (counts.foldl (fun total n => total + n) 0)

end BeaconDuties
