import BeaconDuties.Proofs.Chain.Times
import BeaconDuties.Proofs.Lists

/-!
Phases follow the forks.

Forks are scheduled one by one, in no particular order, and one that is not scheduled has the
largest number for its epoch. A phase is entered only after all phases before it, so that it may
start later than its own fork.

* `Clock.started`: the phases that have been entered by an epoch. The last of them is the phase of
  the epoch.
* `Clock.le_phaseAt_iff`: an epoch is in a phase or a later one exactly if all forks up to that
  phase have happened.
* `Clock.ofSpec_eq_ok`: what a clock has of the specification and the schedule from which it is
  made. Its forks are those that they name (`Clock.forkEpoch_eq_ok`).
* `Clock.phases_follow_forks`: all this, and that phases do not go back and that no slot is in a
  phase whose fork is not scheduled, nor in one after it.
-/

namespace BeaconDuties

namespace Phase

variable {p q r : Phase}

theorem le_refl (p : Phase) : p ≤ p := Nat.le_refl _

theorem le_trans (hpq : p ≤ q) (hqr : q ≤ r) : p ≤ r := Nat.le_trans hpq hqr

theorem le_total (p q : Phase) : p ≤ q ∨ q ≤ p := Nat.le_total _ _

theorem mem_all (p : Phase) : p ∈ all := by
  cases p <;> simp [all]

/-- Phases are listed in their order. -/
theorem pairwise_all : all.Pairwise fun p q => ¬ q ≤ p := by decide

end Phase

theorem Spec.exists_of_bind_eq_ok {α β : Type} {reader : Except SpecFault α}
    {next : α → Except SpecFault β} {b : β} (h : reader >>= next = .ok b) :
    ∃ a, reader = .ok a ∧ next a = .ok b := by
  cases reader with
  | ok a => exact ⟨a, rfl, h⟩
  | error fault => cases h

namespace Clock

open Spec (exists_of_bind_eq_ok)

variable {clock : Clock} {epoch : Epoch} {phase : Phase}

/-! ## The phase of an epoch -/

/-- The phases that have been entered by an epoch. -/
def started (clock : Clock) (epoch : Epoch) : List Phase :=
  Phase.all.takeWhile (clock.forks.start · ≤ epoch)

theorem mem_started :
    phase ∈ clock.started epoch ↔ ∀ earlier ≤ phase, clock.forks.start earlier ≤ epoch := by
  rw [started, Lists.mem_takeWhile_iff Phase.le_total Phase.pairwise_all]
  simp [Phase.mem_all]

theorem pairwise_started : (clock.started epoch).Pairwise fun p q => ¬ q ≤ p :=
  Phase.pairwise_all.sublist (List.takeWhile_sublist _)

theorem phase0_mem_started : Phase.phase0 ∈ clock.started epoch := by
  refine mem_started.2 fun earlier h => ?_
  cases earlier with
  | phase0 => exact UInt64.zero_le
  | _ => exact absurd h (by decide)

theorem getLast?_started : (clock.started epoch).getLast? = some (clock.phaseAt epoch) := by
  have hmem : Phase.phase0 ∈ clock.started epoch := phase0_mem_started
  have hlast := List.getLast?_eq_some_getLast (List.ne_nil_of_mem hmem)
  have hphase : clock.phaseAt epoch = (clock.started epoch).getLast?.getD .phase0 := rfl
  rw [hphase, hlast]
  rfl

/-- An epoch has reached a phase if all forks up to this phase have happened. -/
theorem le_phaseAt_iff :
    phase ≤ clock.phaseAt epoch ↔ ∀ earlier ≤ phase, clock.forks.start earlier ≤ epoch := by
  have hlast : (clock.started epoch).getLast? = some (clock.phaseAt epoch) := getLast?_started
  constructor
  · intro h earlier hle
    exact mem_started.1 (List.mem_of_getLast? hlast) earlier (Phase.le_trans hle h)
  · intro h
    exact Lists.rel_of_getLast?_eq_some Phase.le_total pairwise_started hlast (mem_started.2 h)

theorem phaseAt_mono {sooner later : Epoch} (h : sooner ≤ later) :
    clock.phaseAt sooner ≤ clock.phaseAt later := by
  refine le_phaseAt_iff.2 fun earlier hle => ?_
  exact UInt64.le_trans (le_phaseAt_iff.1 (Phase.le_refl _) earlier hle) h

/-- Where an epoch has two slots or more, no slot has the largest number for its epoch. -/
theorem epochOf_lt (h : 2 ≤ clock.slotsPerEpoch) (slot : Slot) :
    clock.epochOf slot < farFuture := by
  have hs := slot.toNat_lt_size
  have htwo : 2 ≤ clock.slotsPerEpoch.toNat := UInt64.le_iff_toNat_le.1 h
  have hhalf : slot.toNat / clock.slotsPerEpoch.toNat ≤ slot.toNat / 2 :=
    Nat.div_le_div_left htwo (by decide)
  rw [lt_farFuture_iff, toNat_epochOf]
  simp only [UInt64.size] at hs ⊢
  omega

/-! ## The forks of a clock -/

section

variable {genesisTime : UInt64} {spec : Spec} {schedule : List Fork}

theorem toNat_of_positive? {n : Nat} {m : UInt64} {hm : 0 < m.toNat}
    (h : positive? n = some ⟨m, hm⟩) : m.toNat = n := by
  unfold positive? at h
  split at h
  · cases h
    exact UInt64.toNat_ofNatLT
  · cases h

/-- What a clock has of a specification and a schedule. -/
theorem ofSpec_eq_ok (h : ofSpec genesisTime spec schedule = .ok clock) :
    clock.genesisTime = genesisTime ∧
      slotDuration spec = .ok clock.slotMillis.toNat ∧
      spec.number "SLOTS_PER_EPOCH" = .ok clock.slotsPerEpoch ∧
      (∃ epochs : Option UInt64, spec.number? "EPOCHS_PER_SYNC_COMMITTEE_PERIOD" = .ok epochs ∧
        clock.epochsPerSyncPeriod = epochs.filter (· ≠ 0)) ∧
      forkEpochs spec schedule = .ok clock.forks := by
  obtain ⟨millis, hmillis, h⟩ := exists_of_bind_eq_ok h
  split at h
  · next slotMillis hslot hpos =>
    obtain ⟨slots, hslots, h⟩ := exists_of_bind_eq_ok h
    split at h
    · next slotsPerEpoch hepoch hpos' =>
      obtain ⟨epochs, hepochs, h⟩ := exists_of_bind_eq_ok h
      obtain ⟨forks, hforks, h⟩ := exists_of_bind_eq_ok h
      cases h
      obtain rfl : slotsPerEpoch = slots := UInt64.toNat_inj.1 (toNat_of_positive? hpos')
      rw [← toNat_of_positive? hpos] at hmillis
      exact ⟨rfl, hmillis, hslots, ⟨epochs, hepochs, rfl⟩, hforks⟩
    · cases h
  · cases h

theorem forkEpoch_eq_ok (h : ofSpec genesisTime spec schedule = .ok clock) (phase : Phase) :
    forkEpoch spec schedule phase = .ok (clock.forks.start phase) := by
  obtain ⟨-, -, -, -, h⟩ := ofSpec_eq_ok h
  obtain ⟨altair, haltair, h⟩ := exists_of_bind_eq_ok h
  obtain ⟨bellatrix, hbellatrix, h⟩ := exists_of_bind_eq_ok h
  obtain ⟨capella, hcapella, h⟩ := exists_of_bind_eq_ok h
  obtain ⟨deneb, hdeneb, h⟩ := exists_of_bind_eq_ok h
  obtain ⟨electra, helectra, h⟩ := exists_of_bind_eq_ok h
  obtain ⟨fulu, hfulu, h⟩ := exists_of_bind_eq_ok h
  rw [← Except.ok.inj h]
  cases phase with
  | phase0 => rfl
  | altair => exact haltair
  | bellatrix => exact hbellatrix
  | capella => exact hcapella
  | deneb => exact hdeneb
  | electra => exact helectra
  | fulu => exact hfulu

end

/-- **Phases follow the forks.** An epoch has reached a phase exactly if it has come to the forks of
    this phase and of all phases before it, whatever their order. So phases never go back, from
    epoch to epoch and from slot to slot. A fork that is not scheduled bars its phase and all later
    ones from every slot, provided that an epoch has two slots or more. The forks of a clock are
    those that the specification and the schedule name. -/
theorem phases_follow_forks (clock : Clock) :
    (∀ (epoch : Epoch) (phase : Phase),
      phase ≤ clock.phaseAt epoch ↔ ∀ earlier ≤ phase, clock.forks.start earlier ≤ epoch) ∧
    (∀ sooner later : Epoch, sooner ≤ later → clock.phaseAt sooner ≤ clock.phaseAt later) ∧
    (∀ sooner later : Slot, sooner ≤ later →
      clock.phaseAtSlot sooner ≤ clock.phaseAtSlot later) ∧
    (2 ≤ clock.slotsPerEpoch → ∀ (slot : Slot) (phase : Phase),
      clock.forks.start phase = farFuture → ¬ phase ≤ clock.phaseAtSlot slot) ∧
    ∀ (genesisTime : UInt64) (spec : Spec) (schedule : List Fork),
      ofSpec genesisTime spec schedule = .ok clock →
        ∀ phase : Phase, forkEpoch spec schedule phase = .ok (clock.forks.start phase) := by
  refine ⟨fun epoch phase => le_phaseAt_iff, fun sooner later h => phaseAt_mono h,
    fun sooner later h => phaseAt_mono (clock.epochOf_mono h), ?_,
    fun _ _ _ h phase => forkEpoch_eq_ok h phase⟩
  intro htwo slot phase hnever hphase
  have hstart := le_phaseAt_iff.1 hphase phase (Phase.le_refl phase)
  rw [hnever] at hstart
  exact UInt64.not_le.2 (clock.epochOf_lt htwo slot) hstart

/-- A specification that names its forks out of order and leaves some of them out. -/
def disordered : Spec := .ofList [("SECONDS_PER_SLOT", .duration 6000),
  ("SLOTS_PER_EPOCH", .number 2), ("ALTAIR_FORK_EPOCH", .number 20),
  ("BELLATRIX_FORK_EPOCH", .number 10), ("DENEB_FORK_EPOCH", .number 0),
  ("ELECTRA_FORK_VERSION", .bytes [5, 0, 0, 0])]

/-- The entry of one of them in the schedule. -/
def scheduled : Fork := ⟨⟨[4, 0, 0, 0], rfl⟩, ⟨[5, 0, 0, 0], rfl⟩, 15⟩

/-- The clock that is made of them. -/
def disorderedClock : Clock where
  genesisTime := 0
  slotMillis := 6000
  slotsPerEpoch := 2
  epochsPerSyncPeriod := none
  forks := ⟨20, 10, farFuture, 0, 15, farFuture⟩
  slotMillis_pos := by decide
  slotsPerEpoch_pos := Nat.two_pos

/-- Bellatrix is due before Altair and waits for it, and not even the last slot has come to Capella,
    which is left out. The epoch of Electra is found in the schedule. -/
theorem phases_follow_forks_disordered :
    ¬ Phase.bellatrix ≤ disorderedClock.phaseAt 19 ∧
      Phase.bellatrix ≤ disorderedClock.phaseAt 20 ∧
      disorderedClock.phaseAtSlot 39 ≤ disorderedClock.phaseAtSlot 40 ∧
      ¬ Phase.capella ≤ disorderedClock.phaseAtSlot farFuture ∧
      forkEpoch disordered [scheduled] .electra = .ok 15 := by
  obtain ⟨hphase, -, hmono, hnever, hforks⟩ := disorderedClock.phases_follow_forks
  refine ⟨fun h => ?_, (hphase 20 .bellatrix).2 fun earlier h => ?_, hmono 39 40 (by decide),
    hnever (by decide) farFuture .capella rfl, hforks 0 disordered [scheduled] rfl .electra⟩
  · exact absurd ((hphase 19 .bellatrix).1 h .altair (by decide)) (by decide)
  · cases earlier with
    | phase0 | altair | bellatrix => decide
    | _ => exact absurd h (by decide)

end Clock

end BeaconDuties
