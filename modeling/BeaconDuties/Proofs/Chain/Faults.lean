import BeaconDuties.Chain.Clock
import BeaconDuties.Duty.Weights

/-!
What a fault in a chain's specification says of it.

* `SpecFault.Explains`: the fault is about the constant under the key that it names.
* `Spec.Explained`: a reader of the specification fails only with faults that explain themselves.
  Readers of one constant do, what is made of such readers does, and so do the weights of a chain
  (`RewardWeights.explained_ofSpec`).
* `Clock.Misblamed`: the duration of a slot is no positive number of 64 bits, but the older of its
  two keys is not zero. Then, and only then, the fault is about a constant that is not at fault
  (`Clock.faults_explain`).
-/

namespace BeaconDuties

/-- Whether a constant is nothing that one could divide by. -/
def SpecValue.IsZero : SpecValue → Prop
  | number n => n = 0
  | duration millis => millis = 0
  | bytes _ => False
  | text _ => False

/-- Whether a fault is about the constant under the key that it names. -/
def SpecFault.Explains (spec : Spec) : SpecFault → Prop
  | missing key => spec.get? key = none
  | wrongKind key expected found =>
    ∃ value, spec.get? key = some value ∧ value.kind = found ∧ found ≠ expected
  | zero key => ∃ value, spec.get? key = some value ∧ value.IsZero

variable {α β : Type} {spec : Spec} {key : String} {fault : SpecFault}

namespace Spec

/-- Whether a reader fails only with faults that are about the specification. -/
def Explained (spec : Spec) (reader : Except SpecFault α) : Prop :=
  ∀ fault, reader = .error fault → fault.Explains spec

namespace Explained

theorem pure (a : α) : Explained spec (Pure.pure a) := nofun

theorem throw (h : fault.Explains spec) : Explained spec (.error fault : Except SpecFault α) := by
  rintro _ ⟨⟩
  exact h

/-- The next reader need only explain itself for what the first one has found. -/
theorem bind {reader : Except SpecFault α} {next : α → Except SpecFault β}
    (h : Explained spec reader) (hnext : ∀ a, reader = .ok a → Explained spec (next a)) :
    Explained spec (reader >>= next) := by
  cases reader with
  | ok a => exact hnext a rfl
  | error fault => exact throw (h fault rfl)

theorem map {reader : Except SpecFault α} {f : α → β} (h : Explained spec reader) :
    Explained spec (reader.map f) := by
  cases reader with
  | ok a => exact nofun
  | error fault => exact throw (h fault rfl)

theorem wrongKind {value : SpecValue} {expected : SpecKind} (hget : spec.get? key = some value)
    (h : value.kind ≠ expected) :
    Explained spec (.error (.wrongKind key expected value.kind) : Except SpecFault α) :=
  throw ⟨value, hget, rfl, h⟩

theorem number? : Explained spec (spec.number? key) := by
  unfold Spec.number?
  cases hget : spec.get? key with
  | none => exact nofun
  | some value =>
    cases value with
    | number => exact nofun
    | _ => exact wrongKind hget nofun

theorem duration? : Explained spec (spec.duration? key) := by
  unfold Spec.duration?
  cases hget : spec.get? key with
  | none => exact nofun
  | some value =>
    cases value with
    | duration => exact nofun
    | _ => exact wrongKind hget nofun

theorem bytes? : Explained spec (spec.bytes? key) := by
  unfold Spec.bytes?
  cases hget : spec.get? key with
  | none => exact nofun
  | some value =>
    cases value with
    | bytes => exact nofun
    | _ => exact wrongKind hget nofun

theorem numberOr {default : UInt64} : Explained spec (spec.numberOr key default) := number?.map

end Explained

theorem number?_eq_ok {n? : Option UInt64} :
    spec.number? key = .ok n? ↔ spec.get? key = n?.map .number := by
  unfold number?
  cases spec.get? key with
  | none => cases n? <;> simp
  | some value => cases value <;> cases n? <;> simp

theorem duration?_eq_ok {millis? : Option Nat} :
    spec.duration? key = .ok millis? ↔ spec.get? key = millis?.map .duration := by
  unfold duration?
  cases spec.get? key with
  | none => cases millis? <;> simp
  | some value => cases value <;> cases millis? <;> simp

theorem number_eq_ok {n : UInt64} : spec.number key = .ok n ↔ spec.get? key = some (.number n) := by
  rw [← Option.map_some, ← number?_eq_ok, number]
  cases spec.number? key with
  | ok n? => cases n? <;> simp
  | error fault => simp

theorem Explained.number : Explained spec (spec.number key) := by
  have h : Explained spec (spec.number? key) := Explained.number?
  unfold Spec.number
  split
  · exact nofun
  · next hmissing => exact throw (number?_eq_ok.1 hmissing)
  · next fault hfault => exact throw (h fault hfault)

end Spec

open Spec (Explained)

/-- The weights of a chain are read with faults that explain themselves: the denominator is found to
    be zero only where the specification says so. -/
theorem RewardWeights.explained_ofSpec : Explained spec (ofSpec spec) := by
  refine .bind .numberOr fun denominator hd => ?_
  refine .bind .numberOr fun _ _ => .bind .numberOr fun _ _ => .bind .numberOr fun _ _ =>
    .bind .numberOr fun _ _ => .bind .numberOr fun _ _ => ?_
  split
  · next hzero =>
    subst hzero
    obtain ⟨n?, hn, hdefault⟩ : ∃ n?, spec.number? "WEIGHT_DENOMINATOR" = .ok n? ∧
        n?.getD 64 = 0 := by
      unfold Spec.numberOr at hd
      cases hn : spec.number? "WEIGHT_DENOMINATOR" with
      | ok n? => exact ⟨n?, rfl, by simpa [hn, Except.map] using hd⟩
      | error fault => simp [hn, Except.map] at hd
    cases n? with
    | none => exact absurd hdefault (by decide)
    | some n => exact .throw ⟨_, Spec.number?_eq_ok.1 hn, hdefault⟩
  · exact .pure _

namespace Clock

variable {genesisTime : UInt64} {schedule : List Fork}

theorem explained_forkEpoch {phase : Phase} : Explained spec (forkEpoch spec schedule phase) := by
  unfold forkEpoch
  split
  · exact .pure _
  · refine .bind .number? fun epoch? _ => ?_
    cases epoch? with
    | some epoch => exact .pure _
    | none => exact .bind .bytes? fun _ _ => .pure _

theorem explained_forkEpochs : Explained spec (forkEpochs spec schedule) :=
  .bind explained_forkEpoch fun _ _ => .bind explained_forkEpoch fun _ _ =>
    .bind explained_forkEpoch fun _ _ => .bind explained_forkEpoch fun _ _ =>
      .bind explained_forkEpoch fun _ _ => .bind explained_forkEpoch fun _ _ => .pure _

/-- The duration of a slot is missing only if there is a constant under neither of its keys. -/
theorem explained_slotDuration : Explained spec (slotDuration spec) := by
  refine .bind .duration? fun older? holder => ?_
  cases older? with
  | some millis => exact .pure _
  | none =>
    refine .bind .duration? fun newer? _ => ?_
    cases newer? with
    | some millis => exact .pure _
    | none => exact .throw (Spec.duration?_eq_ok.1 holder)

theorem slotDuration_eq_ok {millis : Nat} :
    slotDuration spec = .ok millis ↔
      spec.get? "SECONDS_PER_SLOT" = some (.duration millis) ∨
        spec.get? "SECONDS_PER_SLOT" = none ∧
          spec.get? "SLOT_DURATION_MS" = some (.duration millis) := by
  unfold slotDuration Spec.duration?
  cases spec.get? "SECONDS_PER_SLOT" with
  | some value => cases value <;> simp [Bind.bind, Except.bind, Pure.pure, Except.pure]
  | none =>
    cases spec.get? "SLOT_DURATION_MS" with
    | some value => cases value <;> simp [Bind.bind, Except.bind, Pure.pure, Except.pure]
    | none => simp [Bind.bind, Except.bind]

theorem positive?_eq_none {n : Nat} : positive? n = none ↔ n = 0 ∨ UInt64.size ≤ n := by
  unfold positive?
  split <;> simp <;> omega

/-- The duration of a slot is no positive number of 64 bits, but the constant under its older key is
    not zero: it is too large, or the newer key is the one that counts. -/
inductive Misblamed (spec : Spec) : Prop
  | long {millis} : spec.get? "SECONDS_PER_SLOT" = some (.duration millis) →
      UInt64.size ≤ millis → Misblamed spec
  | newer {millis} : spec.get? "SECONDS_PER_SLOT" = none →
      spec.get? "SLOT_DURATION_MS" = some (.duration millis) →
      millis = 0 ∨ UInt64.size ≤ millis → Misblamed spec

theorem Misblamed.not_explains (h : Misblamed spec) :
    ¬ (SpecFault.zero "SECONDS_PER_SLOT").Explains spec := by
  rintro ⟨value, hget, hzero⟩
  cases h with
  | long hlong hsize =>
    obtain rfl := Option.some.inj (hget.symm.trans hlong)
    rw [SpecValue.IsZero] at hzero
    exact absurd hsize (by rw [hzero]; decide)
  | newer hnone _ _ => exact nomatch hget.symm.trans hnone

theorem Misblamed.ofSpec_eq (h : Misblamed spec) :
    ofSpec genesisTime spec schedule = .error (.zero "SECONDS_PER_SLOT") := by
  obtain ⟨millis, hmillis, hpos⟩ :
      ∃ millis, slotDuration spec = .ok millis ∧ positive? millis = none := by
    cases h with
    | long hlong hsize =>
      exact ⟨_, slotDuration_eq_ok.2 (.inl hlong), positive?_eq_none.2 (.inr hsize)⟩
    | newer hnone hnewer hbad =>
      exact ⟨_, slotDuration_eq_ok.2 (.inr ⟨hnone, hnewer⟩), positive?_eq_none.2 hbad⟩
  unfold ofSpec
  rw [hmillis]
  simp only [Bind.bind, Except.bind, hpos]
  rfl

/-- Where a slot has a duration that cannot be used and the older key is not misblamed, that key is
    zero. -/
theorem explains_of_slotDuration (h : ¬ Misblamed spec) {millis : Nat}
    (hmillis : slotDuration spec = .ok millis) (hpos : positive? millis = none) :
    (SpecFault.zero "SECONDS_PER_SLOT").Explains spec := by
  rcases slotDuration_eq_ok.1 hmillis with holder | ⟨hnone, hnewer⟩
  · rcases positive?_eq_none.1 hpos with rfl | hsize
    · exact ⟨_, holder, rfl⟩
    · exact absurd (.long holder hsize) h
  · exact absurd (.newer hnone hnewer (positive?_eq_none.1 hpos)) h

theorem explained_ofSpec (h : ¬ Misblamed spec) :
    Explained spec (ofSpec genesisTime spec schedule) := by
  refine .bind explained_slotDuration fun millis hmillis => ?_
  cases hpos : positive? millis with
  | none => exact .throw (explains_of_slotDuration h hmillis hpos)
  | some slotMillis =>
    refine .bind .number fun n hn => ?_
    cases hpos' : positive? n.toNat with
    | some slotsPerEpoch =>
      exact .bind .number? fun _ _ => .bind explained_forkEpochs fun _ _ => .pure _
    | none =>
      have hzero : n = 0 := by
        rcases positive?_eq_none.1 hpos' with hz | hsize
        · exact UInt64.toNat_inj.1 hz
        · exact absurd n.toNat_lt (Nat.not_lt.2 hsize)
      exact .throw ⟨_, Spec.number_eq_ok.1 hn, hzero⟩

/-- **A fault names its cause, but for one.** A chain whose specification cannot be used is told
    which constant is missing, which is of what other kind, or which is zero, and so it is. The one
    exception is a slot whose duration cannot be used though the older key is not zero: it is always
    the older key that is called zero. -/
theorem faults_explain (genesisTime : UInt64) (spec : Spec) (schedule : List Fork) :
    (¬ Misblamed spec → ∀ fault, ofSpec genesisTime spec schedule = .error fault →
      fault.Explains spec) ∧
    (Misblamed spec →
      ofSpec genesisTime spec schedule = .error (.zero "SECONDS_PER_SLOT") ∧
        ¬ (SpecFault.zero "SECONDS_PER_SLOT").Explains spec) :=
  ⟨explained_ofSpec, fun h => ⟨h.ofSpec_eq, h.not_explains⟩⟩

/-- A specification by which slots take no time. -/
def timeless : Spec := .ofList [("SLOT_DURATION_MS", .duration 0), ("SLOTS_PER_EPOCH", .number 32)]

theorem misblamed_timeless : Misblamed timeless :=
  .newer (by decide) (by decide) (.inl rfl)

/-- The newer key is zero and the older one, which is said to be, is missing. -/
theorem misblames_timeless :
    ofSpec 0 timeless [] = .error (.zero "SECONDS_PER_SLOT") ∧
      timeless.get? "SECONDS_PER_SLOT" = none ∧
      timeless.get? "SLOT_DURATION_MS" = some (.duration 0) :=
  ⟨misblamed_timeless.ofSpec_eq, by decide, by decide⟩

/-- A specification in which the length of an epoch is no number. -/
def endless : Spec :=
  .ofList [("SECONDS_PER_SLOT", .duration 12000), ("SLOTS_PER_EPOCH", .text "many")]

theorem not_misblamed_endless : ¬ Misblamed endless := by
  have holder : endless.get? "SECONDS_PER_SLOT" = some (.duration 12000) := by decide
  rintro (⟨hlong, hsize⟩ | ⟨hnone, -, -⟩)
  · obtain rfl := SpecValue.duration.inj (Option.some.inj (holder.symm.trans hlong))
    exact absurd hsize (by decide)
  · exact nomatch holder.symm.trans hnone

/-- The fault of one specification explains itself; that of the other is about another key. -/
theorem faults_explain_endless_timeless :
    (SpecFault.wrongKind "SLOTS_PER_EPOCH" .number .text).Explains endless ∧
      ¬ (SpecFault.zero "SECONDS_PER_SLOT").Explains timeless := by
  refine ⟨(faults_explain 0 endless []).1 not_misblamed_endless _ ?_,
    ((faults_explain 0 timeless []).2 misblamed_timeless).2⟩
  rfl

end Clock

end BeaconDuties
