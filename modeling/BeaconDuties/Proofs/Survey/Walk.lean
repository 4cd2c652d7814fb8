import BeaconDuties.Proofs.Survey.Parts

/-!
What walks and judgements come to if the node always answers alike.

* `Answers.CanonicalBefore`: the canonical header at a slot, or the last one before it. There is at
  most one, and it is what a walk back finds (`Survey.canonicalBefore_of_canonical`).
* `Classification.Judges`: a vote is judged by the blocks that are canonical where it votes, and by
  the slot of its inclusion. There is at most one such judgement, and `Survey.classify` gives it.
-/

namespace BeaconDuties

open Survey

variable {node : Answers} {clock : Clock} {limits : Limits}

/-! ## Canonical headers -/

/-- The canonical header at a slot, or the last one before it. -/
def Answers.CanonicalBefore (node : Answers) (slot : Slot) (header : Header) : Prop :=
  ∃ place ≤ slot, node (.header (.slot place)) = .ok (some header) ∧ header.canonical ∧
    ∀ later, place < later → later ≤ slot →
      ∃ other, node (.header (.slot later)) = .ok other ∧ other.filter (·.canonical) = none

theorem Answers.CanonicalBefore.unique {slot : Slot} {header header' : Header}
    (h : node.CanonicalBefore slot header) (h' : node.CanonicalBefore slot header') :
    header = header' := by
  obtain ⟨place, hp, hn, hc, hl⟩ := h
  obtain ⟨place', hp', hn', hc', hl'⟩ := h'
  have hlt : ¬ place < place' := by
    intro hlt
    obtain ⟨other, ho, hf⟩ := hl place' hlt hp'
    rw [hn'] at ho
    cases ho
    simp [hc'] at hf
  have hgt : ¬ place' < place := by
    intro hgt
    obtain ⟨other, ho, hf⟩ := hl' place hgt hp
    rw [hn] at ho
    cases ho
    simp [hc] at hf
  obtain rfl : place = place' := by grind
  rw [hn] at hn'
  cases hn'
  rfl

namespace Survey

/-- As long as there is time, to check it does nothing. -/
theorem checkTime_bind {α : Type} (hlimits : limits.expired = false) (f : Unit → Survey α) :
    checkTime limits >>= f = f () := by
  rw [checkTime, hlimits]
  rfl

theorem Steady.checkTime : Steady node clock (checkTime limits) := .of_composed Composed.checkTime

theorem Steady.canonicalWithin {start slot : Slot} {steps : Nat} :
    Steady node clock (canonicalWithin limits start steps slot) :=
  .of_composed (Composed.canonicalWithin fun _ => trivial)

theorem Steady.canonical {slot : Slot} : Steady node clock (canonical limits slot) :=
  .canonicalWithin

theorem canonicalBefore_of_canonicalWithin {start : Slot} :
    ∀ {steps : Nat} {slot : Slot} {header : Header},
      Finds node clock (canonicalWithin limits start steps slot) header →
        node.CanonicalBefore slot header
  | 0, _, _, h => by simp [Survey.canonicalWithin] at h
  | steps + 1, slot, header, h => by
    obtain ⟨-, -, h⟩ := Finds.bind h .checkTime
    obtain ⟨header?, hn, h⟩ := Finds.bind h (.header slot)
    rw [answer_header_eq_ok] at hn
    split at h
    · next found hf =>
      obtain rfl := finds_pure.1 h
      obtain ⟨rfl, hc⟩ := Option.filter_eq_some_iff.1 hf
      exact ⟨slot, UInt64.le_refl _, hn, hc, fun later h1 h2 => by grind⟩
    · next hf =>
      split at h
      · simp at h
      · next h0 =>
        obtain ⟨place, hp, hh, hc, hl⟩ := canonicalBefore_of_canonicalWithin h
        refine ⟨place, by grind, hh, hc, fun later h1 h2 => ?_⟩
        by_cases hs : later = slot
        · exact hs ▸ ⟨header?, hn, hf⟩
        · exact hl later h1 (by grind)

theorem canonicalBefore_of_canonical (clock : Clock) {slot : Slot} {header : Header}
    (h : answer node (canonical limits slot) = .ok header) : node.CanonicalBefore slot header :=
  canonicalBefore_of_canonicalWithin (finds_of_answer h : Finds node clock _ _)

end Survey

/-! ## Judging votes -/

theorem headInTime_of_le {a b : UInt64} (h : a ≤ b) (hb : headInTime b) : headInTime a := by
  rw [headInTime, decide_eq_true_eq] at hb ⊢
  exact UInt64.le_trans h hb

theorem sourceInTime_of_le {a b : UInt64} (h : a ≤ b) (hb : sourceInTime b) : sourceInTime a := by
  rw [sourceInTime, decide_eq_true_eq] at hb ⊢
  exact UInt64.le_trans h hb

/-- A vote that is included in a slot is judged by the blocks that are canonical where it votes. -/
structure Classification.Judges (node : Answers) (clock : Clock) (data : AttestationData)
    (inclusion : Slot) (x : Classification) : Prop where
  later : data.slot < inclusion
  head : ∃ header, node.CanonicalBefore data.slot header ∧ header.root = x.head
  target : ∃ header, node.CanonicalBefore (clock.firstSlot data.target.epoch) header ∧
    header.root = x.target
  delay : x.delay = inclusion - data.slot
  phase : x.phase = clock.phaseAtSlot inclusion
  flags : x.flags = .judge x.phase x.delay (x.head = data.head) (x.target = data.target.root)

/-- Wherever a vote is included, it is judged by the same blocks. -/
theorem Classification.Judges.roots_eq {data : AttestationData} {inclusion inclusion' : Slot}
    {x y : Classification} (hx : x.Judges node clock data inclusion)
    (hy : y.Judges node clock data inclusion') : x.head = y.head ∧ x.target = y.target := by
  obtain ⟨head, hh, hxh⟩ := hx.head
  obtain ⟨head', hh', hyh⟩ := hy.head
  obtain ⟨target, ht, hxt⟩ := hx.target
  obtain ⟨target', ht', hyt⟩ := hy.target
  obtain rfl := hh.unique hh'
  obtain rfl := ht.unique ht'
  exact ⟨hxh.symm.trans hyh, hxt.symm.trans hyt⟩

theorem Classification.Judges.unique {data : AttestationData} {inclusion : Slot}
    {x y : Classification} (hx : x.Judges node clock data inclusion)
    (hy : y.Judges node clock data inclusion) : x = y := by
  obtain ⟨hh, ht⟩ := hx.roots_eq hy
  obtain ⟨-, -, -, hxd, hxp, hxf⟩ := hx
  obtain ⟨-, -, -, hyd, hyp, hyf⟩ := hy
  cases x
  cases y
  simp_all

/-- Of two votes in one slot, the one that is included earlier has waited no longer. -/
theorem Classification.Judges.delay_le {data data' : AttestationData} {inclusion inclusion' : Slot}
    {x y : Classification} (hx : x.Judges node clock data inclusion)
    (hy : y.Judges node clock data' inclusion') (hd : data.slot = data'.slot)
    (hi : inclusion ≤ inclusion') : x.delay ≤ y.delay := by
  have hlt := hx.later
  rw [hx.delay, hy.delay, ← hd, UInt64.le_iff_toNat_le, UInt64.toNat_sub_of_le _ _ ?_,
    UInt64.toNat_sub_of_le _ _ ?_]
  · exact Nat.sub_le_sub_right (UInt64.le_iff_toNat_le.1 hi) _
  · exact UInt64.le_trans (UInt64.le_of_lt hlt) hi
  · exact UInt64.le_of_lt hlt

namespace Survey

variable {data : AttestationData} {inclusion : Slot}

theorem Steady.classify : Steady node clock (classify limits clock data inclusion) :=
  .of_composed (Composed.classify fun _ => trivial)

/-- A vote is judged as it should be. -/
theorem judges_of_classify {x : Classification}
    (h : answer node (classify limits clock data inclusion) = .ok x) :
    x.Judges node clock data inclusion := by
  obtain ⟨delay, hd, h⟩ := (finds_of_answer h : Finds node clock _ _).bind (.lift _ _)
  obtain ⟨head, hh, h⟩ := h.bind (.during _ .canonical)
  obtain ⟨target, ht, h⟩ := h.bind (.during _ .canonical)
  obtain rfl := finds_pure.1 h
  rw [answer_lift_eq_ok, inclusionDelay] at hd
  rw [answer_during_eq_ok] at hh ht
  split at hd
  · next hlt =>
    cases hd
    exact ⟨hlt, ⟨head, canonicalBefore_of_canonical clock hh, rfl⟩,
      ⟨target, canonicalBefore_of_canonical clock ht, rfl⟩, rfl, rfl, rfl⟩
  · cases hd

/-! ## Blocks of slots -/

theorem Steady.attesting {table : CommitteeTable} {attestation : Attestation} :
    Steady node clock (attesting table attestation) := .lift _ _

theorem Steady.blockIn {slot : Slot} : Steady node clock (blockIn slot) := .during _ (.blockAt _)

@[simp] theorem answer_blockIn_eq_ok {slot : Slot} {block? : Option Block} :
    answer node (blockIn slot) = .ok block? ↔ node (.block (.slot slot)) = .ok block? := by
  rw [blockIn, answer_during_eq_ok, answer_blockAt_eq_ok]

theorem Steady.proposals {duties : List ProposerDuty} : Steady node clock (proposals duties) :=
  .of_composed (Composed.proposals fun _ _ => trivial)

end Survey

end BeaconDuties
