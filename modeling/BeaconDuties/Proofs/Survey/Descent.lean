import BeaconDuties.Proofs.Survey.Recall

/-!
Which slots a walk back to a canonical header visits, and how it ends.

A node answers for a slot that there is a canonical header or that there is none
(`Answers.Barren`), or it fails. `Survey.Descent` tells the slots of a walk and its end, one slot
after another, as they follow from these answers. Whatever a memory holds, a walk takes this course;
it asks for the slots whose headers are not remembered (`Survey.exists_descent`).

The slots of a walk are those that lie within its limit and after which all slots are barren
(`Survey.Visits`). So at most one of them is not barren (`Survey.Visits.unique`), and it decides how
the walk ends (`Survey.WalksBack`).
-/

namespace BeaconDuties

open Survey

variable {node : Answers} {limits : Limits} {memory : Memory}

/-! ## Slots -/

namespace Answers

/-- There is a canonical header in a slot. -/
def CanonicalAt (node : Answers) (slot : Slot) (header : Header) : Prop :=
  node (.header (.slot slot)) = .ok (some header) ∧ header.canonical

/-- The header of a slot cannot be had. -/
def FailsAt (node : Answers) (slot : Slot) (fault : NodeFault) : Prop :=
  node (.header (.slot slot)) = .error fault

/-- There is no header in a slot, or one that is not canonical. -/
def Barren (node : Answers) (slot : Slot) : Prop :=
  ∃ other, node (.header (.slot slot)) = .ok other ∧ other.filter (·.canonical) = none

variable {slot : Slot} {header header' : Header} {fault fault' : NodeFault}

theorem CanonicalAt.not_barren (h : node.CanonicalAt slot header) : ¬ node.Barren slot := by
  rintro ⟨other, ho, hf⟩
  rw [h.1] at ho
  cases ho
  simp [h.2] at hf

theorem FailsAt.not_barren (h : node.FailsAt slot fault) : ¬ node.Barren slot := by
  rintro ⟨other, ho, -⟩
  rw [h] at ho
  cases ho

theorem CanonicalAt.unique (h : node.CanonicalAt slot header)
    (h' : node.CanonicalAt slot header') : header = header' := by
  have := h.1.symm.trans h'.1
  cases this
  rfl

theorem FailsAt.unique (h : node.FailsAt slot fault) (h' : node.FailsAt slot fault') :
    fault = fault' := by
  have := h.symm.trans h'
  cases this
  rfl

theorem CanonicalAt.not_failsAt (h : node.CanonicalAt slot header) : ¬ node.FailsAt slot fault := by
  intro h'
  have := h.1.symm.trans h'
  cases this

end Answers

namespace Survey

/-! ## The course of a walk -/

/-- A walk back from a slot, in no more than so many steps, visits these slots and ends like this.
    The walk started at `start`. -/
inductive Descent (node : Answers) (limits : Limits) (start : Slot) :
    Nat → Slot → List Slot → Except Failure Header → Prop where
  /-- There are no steps left. -/
  | exhausted {slot : Slot} :
      Descent node limits start 0 slot []
        (.error (.because [] (.walk (.stepLimit start limits.maxWalk))))
  | found {steps : Nat} {slot : Slot} {header : Header} (h : node.CanonicalAt slot header) :
      Descent node limits start (steps + 1) slot [slot] (.ok header)
  | failed {steps : Nat} {slot : Slot} {fault : NodeFault} (h : node.FailsAt slot fault) :
      Descent node limits start (steps + 1) slot [slot] (.error (.because [] (.node fault)))
  /-- The first slot is barren. -/
  | genesis {steps : Nat} (h : node.Barren 0) :
      Descent node limits start (steps + 1) 0 [0]
        (.error (.because [] (.walk (.reachedGenesis start))))
  /-- A barren slot is left behind. -/
  | back {steps : Nat} {slot : Slot} {visited : List Slot} {result : Except Failure Header}
      (h : node.Barren slot) (hslot : slot ≠ 0)
      (rest : Descent node limits start steps (slot - 1) visited result) :
      Descent node limits start (steps + 1) slot (slot :: visited) result

variable {start slot : Slot} {steps : Nat} {visited : List Slot} {result : Except Failure Header}

/-! ## Slots that are visited -/

/-- A walk back from a slot visits the slots within so many steps after which all slots are
    barren. -/
def Visits (node : Answers) (steps : Nat) (slot s : Slot) : Prop :=
  s ≤ slot ∧ slot.toNat - s.toNat < steps ∧ ∀ later, s < later → later ≤ slot → node.Barren later

theorem visits_self : Visits node (steps + 1) slot slot :=
  ⟨UInt64.le_refl _, by omega, fun later h h' => by grind⟩

/-- No slot is visited after one that is not barren. -/
theorem Visits.eq_of_not_barren {s : Slot} (h : Visits node steps slot s)
    (hslot : ¬ node.Barren slot) : s = slot := by
  by_contra hne
  exact hslot (h.2.2 slot (by have := h.1; grind) (UInt64.le_refl _))

theorem visits_back (h : node.Barren slot) (hslot : slot ≠ 0) {s : Slot} :
    Visits node (steps + 1) slot s ↔ s = slot ∨ Visits node steps (slot - 1) s := by
  have hsub := toNat_sub_one hslot
  constructor
  · rintro ⟨hle, hsteps, hlater⟩
    by_cases hs : s = slot
    · exact .inl hs
    · have hlt : s.toNat < slot.toNat := UInt64.lt_iff_toNat_lt.1 (by grind)
      refine .inr ⟨UInt64.le_iff_toNat_le.2 (by omega), by omega, fun later h1 h2 => ?_⟩
      exact hlater later h1 (by grind)
  · rintro (rfl | ⟨hle, hsteps, hlater⟩)
    · exact visits_self
    · have hle' := UInt64.le_iff_toNat_le.1 hle
      refine ⟨UInt64.le_iff_toNat_le.2 (by omega), by omega, fun later h1 h2 => ?_⟩
      by_cases hl : later = slot
      · exact hl ▸ h
      · exact hlater later h1 (by grind)

/-- At most one slot that is visited is not barren. -/
theorem Visits.unique {s s' : Slot} (h : Visits node steps slot s) (h' : Visits node steps slot s')
    (hs : ¬ node.Barren s) (hs' : ¬ node.Barren s') : s = s' := by
  have hge : ¬ s < s' := fun hlt => hs' (h.2.2 s' hlt h'.1)
  have hle : ¬ s' < s := fun hlt => hs (h'.2.2 s hlt h.1)
  grind

theorem Descent.mem_iff (h : Descent node limits start steps slot visited result) :
    ∀ s, s ∈ visited ↔ Visits node steps slot s := by
  have hlast : ∀ {steps : Nat} {slot : Slot}, ¬ node.Barren slot ∨ slot = 0 →
      ∀ s, s ∈ [slot] ↔ Visits node (steps + 1) slot s := by
    intro steps slot hslot s
    rw [List.mem_singleton]
    refine ⟨fun hs => hs ▸ visits_self, fun hs => ?_⟩
    rcases hslot with hslot | rfl
    · exact hs.eq_of_not_barren hslot
    · have := hs.1
      grind
  induction h with
  | exhausted => exact fun s => by simp [Visits]
  | found h => exact hlast (.inl h.not_barren)
  | failed h => exact hlast (.inl h.not_barren)
  | genesis => exact hlast (.inr rfl)
  | back h hslot _ ih =>
    intro s
    rw [List.mem_cons, visits_back h hslot, ih]

/-- The slots of a walk are visited in descending order. -/
theorem Descent.descending (h : Descent node limits start steps slot visited result) :
    visited.Pairwise (· > ·) := by
  induction h with
  | exhausted => exact .nil
  | found | failed | genesis => exact List.pairwise_singleton _ _
  | back h hslot rest ih =>
    refine .cons (fun s hs => ?_) ih
    have hle := ((rest.mem_iff s).1 hs).1
    grind

theorem Descent.length_le (h : Descent node limits start steps slot visited result) :
    visited.length ≤ steps := by
  induction h with
  | exhausted => exact Nat.le_refl _
  | found | failed | genesis => exact Nat.le_add_left _ _
  | back _ _ _ ih => exact Nat.succ_le_succ ih

/-- How a walk ends: with a slot that is not barren, with the first slot, or with its steps. -/
theorem Descent.ends (h : Descent node limits start steps slot visited result) :
    (∃ s header, Visits node steps slot s ∧ node.CanonicalAt s header ∧ result = .ok header) ∨
    (∃ s fault, Visits node steps slot s ∧ node.FailsAt s fault ∧
      result = .error (.because [] (.node fault))) ∨
    ((∀ s ≤ slot, node.Barren s) ∧ slot.toNat < steps ∧
      result = .error (.because [] (.walk (.reachedGenesis start)))) ∨
    (∀ s, Visits node steps slot s → node.Barren s) ∧ steps ≤ slot.toNat ∧
      result = .error (.because [] (.walk (.stepLimit start limits.maxWalk))) := by
  induction h with
  | exhausted => exact .inr (.inr (.inr ⟨fun s hs => absurd hs.2.1 (Nat.not_lt_zero _), by simp⟩))
  | found h => exact .inl ⟨_, _, visits_self, h, rfl⟩
  | failed h => exact .inr (.inl ⟨_, _, visits_self, h, rfl⟩)
  | genesis h =>
    refine .inr (.inr (.inl ⟨fun s hs => ?_, by simp, rfl⟩))
    obtain rfl : s = 0 := by grind
    exact h
  | @back steps slot visited result h hslot _ ih =>
    have hsub := toNat_sub_one hslot
    obtain ⟨s, header, hs, hheader, rfl⟩ | ⟨s, fault, hs, hfault, rfl⟩ | ⟨hbarren, hsteps, rfl⟩ |
      ⟨hbarren, hsteps, rfl⟩ := ih
    · exact .inl ⟨s, header, (visits_back h hslot).2 (.inr hs), hheader, rfl⟩
    · exact .inr (.inl ⟨s, fault, (visits_back h hslot).2 (.inr hs), hfault, rfl⟩)
    · refine .inr (.inr (.inl ⟨fun s hs => ?_, by omega, rfl⟩))
      by_cases heq : s = slot
      · exact heq ▸ h
      · exact hbarren s (by grind)
    · refine .inr (.inr (.inr ⟨fun s hs => ?_, by omega, rfl⟩))
      rcases (visits_back h hslot).1 hs with rfl | hs
      · exact h
      · exact hbarren s hs

namespace Descent

variable {result' : Except Failure Header} {visited' : List Slot}

/-- A walk finds a header just if it is the canonical one of a slot that is visited. -/
theorem eq_ok_iff (h : Descent node limits start steps slot visited result) {header : Header} :
    result = .ok header ↔ ∃ s, Visits node steps slot s ∧ node.CanonicalAt s header := by
  constructor
  · rintro rfl
    obtain ⟨s, header', hs, hheader, heq⟩ | ⟨_, _, _, _, heq⟩ | ⟨_, _, heq⟩ | ⟨_, _, heq⟩ := h.ends
    · cases heq
      exact ⟨s, hs, hheader⟩
    all_goals cases heq
  · rintro ⟨s, hs, hheader⟩
    obtain ⟨s', header', hs', hheader', rfl⟩ | ⟨s', fault, hs', hfault, -⟩ | ⟨hbarren, -⟩ |
      ⟨hbarren, -⟩ := h.ends
    · obtain rfl := hs.unique hs' hheader.not_barren hheader'.not_barren
      rw [hheader.unique hheader']
    · obtain rfl := hs.unique hs' hheader.not_barren hfault.not_barren
      exact absurd hfault hheader.not_failsAt
    · exact absurd (hbarren s hs.1) hheader.not_barren
    · exact absurd (hbarren s hs) hheader.not_barren

/-- A walk reports a fault just if it is that of a slot that is visited. -/
theorem eq_fault_iff (h : Descent node limits start steps slot visited result)
    {fault : NodeFault} :
    result = .error (.because [] (.node fault)) ↔
      ∃ s, Visits node steps slot s ∧ node.FailsAt s fault := by
  constructor
  · rintro rfl
    obtain ⟨_, _, _, _, heq⟩ | ⟨s, fault', hs, hfault, heq⟩ | ⟨_, _, heq⟩ | ⟨_, _, heq⟩ := h.ends
    · cases heq
    · cases heq
      exact ⟨s, hs, hfault⟩
    all_goals cases heq
  · rintro ⟨s, hs, hfault⟩
    obtain ⟨s', header, hs', hheader, -⟩ | ⟨s', fault', hs', hfault', rfl⟩ | ⟨hbarren, -⟩ |
      ⟨hbarren, -⟩ := h.ends
    · obtain rfl := hs.unique hs' hfault.not_barren hheader.not_barren
      exact absurd hfault hheader.not_failsAt
    · obtain rfl := hs.unique hs' hfault.not_barren hfault'.not_barren
      rw [hfault.unique hfault']
    · exact absurd (hbarren s hs.1) hfault.not_barren
    · exact absurd (hbarren s hs) hfault.not_barren

theorem eq_reachedGenesis_iff (h : Descent node limits start steps slot visited result) :
    result = .error (.because [] (.walk (.reachedGenesis start))) ↔
      (∀ s ≤ slot, node.Barren s) ∧ slot.toNat + 1 ≤ steps := by
  constructor
  · rintro rfl
    obtain ⟨_, _, _, _, heq⟩ | ⟨_, _, _, _, heq⟩ | ⟨hbarren, hsteps, -⟩ | ⟨_, _, heq⟩ := h.ends
    · cases heq
    · cases heq
    · exact ⟨hbarren, hsteps⟩
    · cases heq
  · rintro ⟨hbarren, hsteps⟩
    obtain ⟨s, _, hs, hheader, -⟩ | ⟨s, _, hs, hfault, -⟩ | ⟨-, -, rfl⟩ | ⟨-, hlimit, -⟩ := h.ends
    · exact absurd (hbarren s hs.1) hheader.not_barren
    · exact absurd (hbarren s hs.1) hfault.not_barren
    · rfl
    · omega

theorem eq_stepLimit_iff (h : Descent node limits start steps slot visited result) :
    result = .error (.because [] (.walk (.stepLimit start limits.maxWalk))) ↔
      (∀ s, Visits node steps slot s → node.Barren s) ∧ steps < slot.toNat + 1 := by
  constructor
  · rintro rfl
    obtain ⟨_, _, _, _, heq⟩ | ⟨_, _, _, _, heq⟩ | ⟨_, _, heq⟩ | ⟨hbarren, hsteps, -⟩ := h.ends
    · cases heq
    · cases heq
    · cases heq
    · exact ⟨hbarren, Nat.lt_succ_of_le hsteps⟩
  · rintro ⟨hbarren, hsteps⟩
    obtain ⟨s, _, hs, hheader, -⟩ | ⟨s, _, hs, hfault, -⟩ | ⟨-, hlimit, -⟩ | ⟨-, -, rfl⟩ := h.ends
    · exact absurd (hbarren s hs) hheader.not_barren
    · exact absurd (hbarren s hs) hfault.not_barren
    · omega
    · rfl

/-- A walk has one end. -/
theorem unique (h : Descent node limits start steps slot visited result)
    (h' : Descent node limits start steps slot visited' result') : result = result' := by
  obtain ⟨s, header, hs, hheader, rfl⟩ | ⟨s, fault, hs, hfault, rfl⟩ | ⟨hbarren, hsteps, rfl⟩ |
    ⟨hbarren, hsteps, rfl⟩ := h.ends
  · exact (h'.eq_ok_iff.2 ⟨s, hs, hheader⟩).symm
  · exact (h'.eq_fault_iff.2 ⟨s, hs, hfault⟩).symm
  · exact (h'.eq_reachedGenesis_iff.2 ⟨hbarren, hsteps⟩).symm
  · exact (h'.eq_stepLimit_iff.2 ⟨hbarren, Nat.lt_succ_of_le hsteps⟩).symm

end Descent

/-! ## Walks from a memory -/

/-- The headers that are remembered are what the node answers. -/
def HeadersFaithful (node : Answers) (memory : Memory) : Prop :=
  ∀ {slot answer}, memory.headers[slot]? = some answer → node (.header (.slot slot)) = .ok answer

/-- Whatever is remembered, the header of a slot is what the node answers. It is asked for if it is
    not remembered, and no other header is remembered after it. -/
theorem exists_outcome_header (hm : HeadersFaithful node memory) :
    ∃ after : Memory, HeadersFaithful node after ∧
      (∀ s, s ≠ slot → after.headers[s]? = memory.headers[s]?) ∧
      outcome node (header slot) memory =
        ((node (.header (.slot slot))).mapError fun fault => .because [] (.node fault), after) ∧
      requestsFrom node (header slot) memory =
        if memory.headers[slot]? = none then [.header (.slot slot)] else [] := by
  have hreply : ∀ {ε : Type} {reply : Except ε (Option Header)},
      reply.map (LookUp.header slot).ofReply = reply := fun {_ reply} => by cases reply <;> rfl
  obtain ⟨after, hother, hkept, houtcome, hrequests⟩ :=
    @LookUp.exists_outcome node memory (.header slot) fun _ h => hreply.trans (hm h)
  have hothers : ∀ s, s ≠ slot → after.headers[s]? = memory.headers[s]? :=
    fun s hs => hother (.header s) fun h => hs (Key.header.inj h)
  refine ⟨after, fun {s answer} hs => ?_, hothers,
    houtcome.trans (congrArg (·, after) hreply), hrequests⟩
  by_cases h : s = slot
  · subst h
    exact hreply.symm.trans ((hkept answer).1 hs)
  · exact hm ((hothers s h).symm.trans hs)

/-- The requests for those of these slots whose headers are not remembered. -/
def headersMissing (memory : Memory) (slots : List Slot) : List Request :=
  (slots.filter fun s => memory.headers[s]? = none).map fun s => .header (.slot s)

theorem headersMissing_cons {slots : List Slot} :
    headersMissing memory (slot :: slots) =
      (if memory.headers[slot]? = none then [.header (.slot slot)] else []) ++
        headersMissing memory slots := by
  rw [headersMissing, List.filter_cons]
  by_cases h : memory.headers[slot]? = none
  · simp only [h, decide_true, if_true, List.map_cons, List.singleton_append, headersMissing]
  · simp only [h, decide_false, Bool.false_eq_true, if_false, List.nil_append, headersMissing]

theorem headersMissing_congr {after : Memory} {slots : List Slot}
    (h : ∀ s ∈ slots, after.headers[s]? = memory.headers[s]?) :
    headersMissing after slots = headersMissing memory slots := by
  rw [headersMissing, headersMissing, List.filter_congr fun s hs => by rw [h s hs]]

/-- Whatever is remembered, a walk takes its course, and asks for the slots whose headers are not
    remembered. -/
theorem exists_descent (hlimits : limits.expired = false) :
    ∀ {steps : Nat} {slot : Slot} {memory : Memory}, HeadersFaithful node memory →
      ∃ visited, Descent node limits start steps slot visited
          (outcome node (canonicalWithin limits start steps slot) memory).1 ∧
        requestsFrom node (canonicalWithin limits start steps slot) memory =
          headersMissing memory visited
  | 0, slot, memory, _ => ⟨[], .exhausted, rfl⟩
  | steps + 1, slot, memory, hm => by
    obtain ⟨after, hafter, hother, houtcome, hrequests⟩ := @exists_outcome_header _ _ slot hm
    rw [canonicalWithin, checkTime_bind hlimits, outcome_bind, requestsFrom_bind, houtcome,
      hrequests]
    cases hn : node (.header (.slot slot)) with
    | error fault => exact ⟨[slot], .failed hn, (@headersMissing_cons _ _ []).symm⟩
    | ok answer =>
      dsimp only [Except.mapError]
      cases hf : answer.filter (·.canonical) with
      | some found =>
        obtain ⟨rfl, hc⟩ := Option.filter_eq_some_iff.1 hf
        exact ⟨[slot], .found ⟨hn, hc⟩, (@headersMissing_cons _ _ []).symm⟩
      | none =>
        have hbarren : node.Barren slot := ⟨answer, hn, hf⟩
        by_cases h0 : slot = 0
        · subst h0
          exact ⟨[0], .genesis hbarren, (@headersMissing_cons _ _ []).symm⟩
        · simp only [h0, if_false]
          obtain ⟨visited, hdescent, hrest⟩ := exists_descent hlimits hafter
          refine ⟨slot :: visited, .back hbarren h0 hdescent, ?_⟩
          -- the header that has been remembered now is that of a slot which is not visited again
          have hearlier : ∀ s ∈ visited, after.headers[s]? = memory.headers[s]? := by
            intro s hs
            have hle := ((hdescent.mem_iff s).1 hs).1
            exact hother s (by grind)
          rw [headersMissing_cons, hrest, headersMissing_congr hearlier]

/-- How a walk back from a slot ends if there is time, and what it asks, if these headers are
    remembered. -/
structure WalksBack (node : Answers) (limits : Limits) (memory : Memory) (slot : Slot)
    (result : Except Failure Header) (requests : List Request) : Prop where
  /-- The header that is found is the canonical one of a slot within the limit. There is neither a
      canonical header nor a fault in any slot after it. -/
  found : ∀ header, result = .ok header ↔
    ∃ s, Visits node limits.maxWalk.toNat slot s ∧ node.CanonicalAt s header
  /-- The fault that is reported is that of such a slot. -/
  failed : ∀ fault, result = .error (.because [] (.node fault)) ↔
    ∃ s, Visits node limits.maxWalk.toNat slot s ∧ node.FailsAt s fault
  /-- The first slot is reported if all slots are barren and there are steps for all of them. -/
  reachedGenesis : result = .error (.because [] (.walk (.reachedGenesis slot))) ↔
    (∀ s ≤ slot, node.Barren s) ∧ slot.toNat + 1 ≤ limits.maxWalk.toNat
  /-- The limit is reported if the slots within it are barren and do not go down to the first. -/
  stepLimit : result = .error (.because [] (.walk (.stepLimit slot limits.maxWalk))) ↔
    (∀ s, Visits node limits.maxWalk.toNat slot s → node.Barren s) ∧
      limits.maxWalk.toNat < slot.toNat + 1
  /-- There is no other end. -/
  ends : (∃ header, result = .ok header) ∨ (∃ fault, result = .error (.because [] (.node fault))) ∨
    result = .error (.because [] (.walk (.reachedGenesis slot))) ∨
    result = .error (.because [] (.walk (.stepLimit slot limits.maxWalk)))
  /-- What is remembered does not change the end. -/
  unaided : result = answer node (canonical limits slot)
  /-- The headers of the visited slots are asked for unless they are remembered, in descending
      order, and they are no more than the limit. -/
  asked : ∃ slots : List Slot, requests = slots.map (fun s => .header (.slot s)) ∧
    slots.Pairwise (· > ·) ∧
    (∀ s, s ∈ slots ↔ Visits node limits.maxWalk.toNat slot s ∧ memory.headers[s]? = none) ∧
    slots.length ≤ limits.maxWalk.toNat

theorem headersFaithful_empty : HeadersFaithful node .empty := by
  intro slot answer h
  simp [Memory.empty] at h

theorem walksBack_of_headersFaithful (hlimits : limits.expired = false)
    (hm : HeadersFaithful node memory) :
    WalksBack node limits memory slot (outcome node (canonical limits slot) memory).1
      (requestsFrom node (canonical limits slot) memory) := by
  obtain ⟨visited, hdescent, hrequests⟩ :=
    @exists_descent _ _ slot hlimits limits.maxWalk.toNat slot _ hm
  obtain ⟨_, halone, -⟩ :=
    @exists_descent _ _ slot hlimits limits.maxWalk.toNat slot _ (@headersFaithful_empty node)
  refine ⟨fun _ => hdescent.eq_ok_iff, fun _ => hdescent.eq_fault_iff,
    hdescent.eq_reachedGenesis_iff, hdescent.eq_stepLimit_iff, ?_, ?_, ?_⟩
  · rcases hdescent.ends with ⟨-, header, -, -, heq⟩ | ⟨-, fault, -, -, heq⟩ | ⟨-, -, heq⟩ |
      ⟨-, -, heq⟩
    · exact .inl ⟨header, heq⟩
    · exact .inr (.inl ⟨fault, heq⟩)
    · exact .inr (.inr (.inl heq))
    · exact .inr (.inr (.inr heq))
  · rw [answer_eq]
    exact hdescent.unique halone
  · refine ⟨_, hrequests, hdescent.descending.filter _, fun s => ?_,
      (List.length_filter_le _ _).trans hdescent.length_le⟩
    rw [List.mem_filter, hdescent.mem_iff, decide_eq_true_eq]

/-- A walk for which there is no time left asks nothing. -/
theorem canonical_of_expired (hlimits : limits.expired = true) (hsteps : 0 < limits.maxWalk) :
    (outcome node (canonical limits slot) memory).1 = .error (.because [] (.node .timeout)) ∧
      requestsFrom node (canonical limits slot) memory = [] := by
  obtain ⟨steps, hsucc⟩ :=
    Nat.exists_eq_succ_of_ne_zero (Nat.ne_of_gt (UInt64.lt_iff_toNat_lt.1 hsteps))
  have htime : checkTime limits = fail (.node .timeout) := by simp [checkTime, hlimits]
  rw [canonical, hsucc, canonicalWithin, htime]
  exact ⟨rfl, rfl⟩

end Survey

namespace Session

variable {visits : List Visit}

/-- If a node has always answered alike, the headers that are remembered are what it answers. -/
theorem headersFaithful (h : Session .empty visits memory)
    (hfixed : ∀ turn ∈ turnsOf visits, turn.answer = node turn.request) :
    HeadersFaithful node memory := (h.recalls hfixed).header

/-- **Walks back to canonical headers.** After any look-ups and walks on a node that always answers
    alike, a walk ends as the answers for its slots say, and asks for what is not remembered. If
    there is no time left, it asks nothing. -/
theorem walksBack (h : Session .empty visits memory)
    (hfixed : ∀ turn ∈ turnsOf visits, turn.answer = node turn.request) (slot : Slot) :
    (limits.expired = false →
      WalksBack node limits memory slot (outcome node (canonical limits slot) memory).1
        (requestsFrom node (canonical limits slot) memory)) ∧
    (limits.expired = true → 0 < limits.maxWalk →
      (outcome node (canonical limits slot) memory).1 = .error (.because [] (.node .timeout)) ∧
        requestsFrom node (canonical limits slot) memory = []) :=
  ⟨fun hlimits => walksBack_of_headersFaithful hlimits (h.headersFaithful hfixed),
    canonical_of_expired⟩

/-- A node that has a header that is not canonical in slot 3, and one that is in slot 2. -/
def gap : Answers
  | .header (.slot slot) =>
    if slot = 3 then .ok (some ⟨3, .zero 32, .zero 32, false⟩)
    else if slot = 2 then .ok (some ⟨2, .zero 32, .zero 32, true⟩)
    else .ok none
  | request => .error (.unsupported request.capability)

/-- The header of slot 3 has been looked up. -/
def lookedUp : List Visit :=
  let lookUp : LookUp := .header 3
  let reply : Option Header := some ⟨3, .zero 32, .zero 32, false⟩
  [⟨.single lookUp, [⟨lookUp.request, .ok reply⟩], .ok reply⟩]

theorem session_lookedUp : Session .empty lookedUp
    (Memory.empty.keep (.header 3) (some ⟨3, .zero 32, .zero 32, false⟩)) :=
  .of_reply (.header 3) (some ⟨3, .zero 32, .zero 32, false⟩)

theorem answer_of_mem_lookedUp : ∀ turn ∈ turnsOf lookedUp, turn.answer = gap turn.request :=
  List.forall_mem_singleton.2 rfl

/-- With a limit of three slots the walk back from slot 4 finds the header of slot 2, and asks for
    slots 4 and 2. With a limit of two slots it gives up, and without time it asks nothing. -/
theorem walksBack_gap :
    ∃ memory, Session .empty lookedUp memory ∧
      (∀ turn ∈ turnsOf lookedUp, turn.answer = gap turn.request) ∧
      WalksBack gap ⟨false, 3⟩ memory 4 (.ok ⟨2, .zero 32, .zero 32, true⟩)
        [.header (.slot 4), .header (.slot 2)] ∧
      WalksBack gap ⟨false, 2⟩ memory 4 (.error (.because [] (.walk (.stepLimit 4 2))))
        [.header (.slot 4)] ∧
      requestsFrom gap (canonical ⟨true, 3⟩ 4) memory = [] := by
  have hwalk := fun limits =>
    @walksBack gap limits _ _ session_lookedUp answer_of_mem_lookedUp 4
  refine ⟨_, session_lookedUp, answer_of_mem_lookedUp, ?_, ?_,
    ((hwalk ⟨true, 3⟩).2 rfl (by decide)).2⟩
  · exact (hwalk ⟨false, 3⟩).1 rfl
  · exact (hwalk ⟨false, 2⟩).1 rfl

end Session

end BeaconDuties
