import BeaconDuties.Proofs.Chain.Phases

/-!
Sync committee periods and their first epochs.

The period of an epoch is a quotient. The first epoch of a period is a product that stops at the
largest number, and it is not before Altair, where sync committees begin. From Altair on, and below
the largest number, the two are adjoint (`Clock.max_satMul_le_iff`): an epoch is not before the
first one of a period exactly if its own period is not before that one.

`Clock.syncPeriods_adjoint` says this of every clock that is made from a specification, which has
no period of zero epochs (`Clock.epochs_pos`), and what follows of the first epoch of a period: it
is the least one that it could be, and there is none if it has no number.
-/

namespace BeaconDuties.Clock

variable {clock : Clock} {epoch altair : Epoch} {period epochs : UInt64}
  {genesisTime : UInt64} {spec : Spec} {schedule : List Fork}

theorem max_le_iff {a b c : UInt64} : max a b ≤ c ↔ a ≤ c ∧ b ≤ c := by
  have hmax : max a b = if a ≤ b then b else a := rfl
  rw [hmax]
  constructor
  · intro h
    split at h
    · next hab => exact ⟨UInt64.le_trans hab h, h⟩
    · next hab => exact ⟨h, UInt64.le_trans (UInt64.le_of_lt (UInt64.not_le.1 hab)) h⟩
  · rintro ⟨ha, hb⟩
    split
    · exact hb
    · exact ha

/-- From Altair on, the first epoch of a period is not after an epoch if the period is not after
    that of the epoch. -/
theorem max_satMul_le_iff (hpos : 0 < epochs.toNat) (hfrom : altair ≤ epoch)
    (h : epoch < farFuture) :
    max (satMul period epochs) altair ≤ epoch ↔ period ≤ epoch / epochs := by
  rw [max_le_iff, and_iff_left hfrom, satMul_le_iff hpos (.inl h)]

/-- A period that is made from a specification has an epoch. -/
theorem epochs_pos (hclock : ofSpec genesisTime spec schedule = .ok clock)
    (hepochs : clock.epochsPerSyncPeriod = some epochs) : 0 < epochs.toNat := by
  obtain ⟨-, -, -, ⟨number, -, hperiod⟩, -⟩ := ofSpec_eq_ok hclock
  rw [hperiod, Option.filter_eq_some_iff] at hepochs
  have hne : epochs ≠ 0 := by simpa using hepochs.2
  exact Nat.pos_of_ne_zero fun hz => hne (UInt64.toNat_inj.1 hz)

/-- A period that begins too late to have a first epoch is that of no epoch. -/
theorem div_ne_of_size_le (h : UInt64.size ≤ period.toNat * epochs.toNat) :
    epoch / epochs ≠ period := by
  rintro rfl
  have hle := Nat.div_mul_le_self epoch.toNat epochs.toNat
  have hlt := epoch.toNat_lt_size
  rw [UInt64.toNat_div] at h
  omega

theorem le_farFuture (n : UInt64) : n ≤ farFuture :=
  UInt64.le_iff_toNat_le.2 (Nat.le_sub_one_of_lt n.toNat_lt_size)

theorem max_satMul_eq_farFuture (h : UInt64.size ≤ period.toNat * epochs.toNat) :
    max (satMul period epochs) altair = farFuture := by
  have hmul : satMul period epochs = farFuture := by
    rw [← UInt64.toNat_inj, toNat_satMul, Nat.min_eq_right (by omega)]
    rfl
  have hle : satMul period epochs ≤ max (satMul period epochs) altair :=
    (max_le_iff.1 (UInt64.le_refl _)).1
  rw [hmul] at hle ⊢
  exact UInt64.le_antisymm (le_farFuture _) hle

/-- **Periods and their first epochs are adjoint.** From Altair on and below the largest number, the
    first epoch of a period is not after an epoch exactly if the period is not after that of the
    epoch. So a first epoch below the largest number is the least one from Altair on whose period is
    not before the given one, also for a period that began before Altair. A period that begins
    after the largest number has no other first epoch, and it is the period of no epoch. -/
theorem syncPeriods_adjoint (hclock : ofSpec genesisTime spec schedule = .ok clock)
    (hepochs : clock.epochsPerSyncPeriod = some epochs) :
    (∀ (period : UInt64) (epoch : Epoch), clock.forks.altair ≤ epoch → epoch < farFuture →
      ∃ first own, clock.firstEpochOfSyncPeriod? period = some first ∧
        clock.syncPeriod? epoch = some own ∧ (first ≤ epoch ↔ period ≤ own)) ∧
    (∀ (period : UInt64) (first : Epoch), clock.firstEpochOfSyncPeriod? period = some first →
      first < farFuture →
        (clock.forks.altair ≤ first ∧ ∃ own, clock.syncPeriod? first = some own ∧ period ≤ own) ∧
        ∀ (epoch : Epoch) (own : UInt64), clock.forks.altair ≤ epoch →
          clock.syncPeriod? epoch = some own → period ≤ own → first ≤ epoch) ∧
    ∀ period : UInt64, UInt64.size ≤ period.toNat * epochs.toNat →
      clock.firstEpochOfSyncPeriod? period = some farFuture ∧
        ∀ epoch : Epoch, clock.syncPeriod? epoch ≠ some period := by
  have hpos := epochs_pos hclock hepochs
  have hfirst : ∀ period, clock.firstEpochOfSyncPeriod? period =
      some (max (satMul period epochs) clock.forks.altair) := by
    intro period
    rw [firstEpochOfSyncPeriod?, hepochs, Option.map_some]
  have hown : ∀ epoch, clock.syncPeriod? epoch = some (epoch / epochs) := by
    intro epoch
    rw [syncPeriod?, hepochs, Option.map_some]
  simp only [hfirst, hown, Option.some.injEq]
  refine ⟨?_, ?_, ?_⟩
  · intro period epoch hfrom hlt
    exact ⟨_, _, rfl, rfl, max_satMul_le_iff hpos hfrom hlt⟩
  · rintro period first rfl hlt
    have hfrom := (max_le_iff.1 (UInt64.le_refl (max (satMul period epochs) clock.forks.altair))).2
    have hreached := (max_satMul_le_iff hpos hfrom hlt).1 (UInt64.le_refl _)
    refine ⟨⟨hfrom, _, rfl, hreached⟩, ?_⟩
    rintro epoch own hle rfl hperiod
    by_cases h : epoch < farFuture
    · exact (max_satMul_le_iff hpos hle h).2 hperiod
    · exact UInt64.le_trans (UInt64.le_of_lt hlt) (UInt64.not_lt.1 h)
  · intro period hsize
    exact ⟨max_satMul_eq_farFuture hsize,
      fun epoch he => div_ne_of_size_le hsize (Option.some.inj he)⟩

/-- A specification by which Altair comes in the middle of the second period. -/
def midway : Spec := .ofList [("SECONDS_PER_SLOT", .duration 12000),
  ("SLOTS_PER_EPOCH", .number 32), ("EPOCHS_PER_SYNC_COMMITTEE_PERIOD", .number 256),
  ("ALTAIR_FORK_EPOCH", .number 300)]

/-- The clock that is made of it. -/
def midwayClock : Clock :=
  { mainnet with
    genesisTime := 0
    forks := ⟨300, farFuture, farFuture, farFuture, farFuture, farFuture⟩ }

/-- The second period is clamped to Altair, the third one has its own first epoch, of which the
    epoch before it falls short, and the last period that has a number has none. -/
theorem syncPeriods_adjoint_midway :
    midwayClock.firstEpochOfSyncPeriod? 1 = some 300 ∧
      (∃ own, midwayClock.syncPeriod? 300 = some own ∧ 1 ≤ own) ∧
      (∀ (epoch : Epoch) (own : UInt64), 300 ≤ epoch → midwayClock.syncPeriod? epoch = some own →
        2 ≤ own → 512 ≤ epoch) ∧
      (∃ first own, midwayClock.firstEpochOfSyncPeriod? 2 = some first ∧
        midwayClock.syncPeriod? 511 = some own ∧ (first ≤ 511 ↔ 2 ≤ own)) ∧
      midwayClock.firstEpochOfSyncPeriod? farFuture = some farFuture := by
  have hclock : ofSpec 0 midway [] = .ok midwayClock := rfl
  obtain ⟨hadjoint, hleast, hlate⟩ := syncPeriods_adjoint hclock rfl
  exact ⟨rfl, (hleast 1 300 rfl (by decide)).1.2, (hleast 2 512 rfl (by decide)).2,
    hadjoint 2 511 (by decide) (by decide), (hlate farFuture (by decide)).1⟩

end BeaconDuties.Clock
