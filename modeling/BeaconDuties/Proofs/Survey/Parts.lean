import BeaconDuties.Report.Proposal
import BeaconDuties.Survey.Judgement
import BeaconDuties.Proofs.Chain.Slots
import BeaconDuties.Proofs.Survey.Answer
import BeaconDuties.Proofs.Survey.Keys

/-!
What surveys are composed of.

Every survey of this library is put together from look-ups, from questions whose answers are not
kept, and from failures that no node has caused. `Survey.Composed` says so, and says of which kind
the requests are and whether totals are among the parts. What holds of these parts and of sequences
holds of all surveys, and follows by one induction. So surveys heed faults
(`Survey.Composed.heeds`), and they are steady if committees are asked for by the first slot of
their epoch (`Survey.Steady.of_composed`).
-/

namespace BeaconDuties

/-- A request is for the block or the header of a slot. -/
def Request.OfSlot : Request → Prop
  | .block (.slot _) => True
  | .header (.slot _) => True
  | _ => False

/-- A request for committees is for the first slot of their epoch. -/
def Request.ByFirstSlot (clock : Clock) : Request → Prop
  | .committees (.slot slot) (some epoch) => slot = clock.firstSlot epoch
  | _ => True

namespace Survey

variable {α β σ : Type} {P : Request → Prop} {T : Prop} {survey : Survey α} {f : α → Survey β}

/-- A survey is composed of look-ups and questions for requests of a kind, and of failures that no
    node has caused. Only look-ups ask for what is kept. Totals may fail only if `T` holds. -/
inductive Composed (P : Request → Prop) (T : Prop) : {α : Type} → Survey α → Prop where
  | pure {α : Type} (a : α) : Composed P T (pure a : Survey α)
  | throw {α : Type} {failure : Failure} (h : Unprompted (.error failure : Except Failure α))
      (htotal : failure = .overflow → T) : Composed P T (throw failure : Survey α)
  | ask {request : Request} (hkey : request.key? = none) (h : P request) :
      Composed P T (ask request)
  | lookUp (lookUp : LookUp) (h : P lookUp.request) : Composed P T lookUp.survey
  | during {α : Type} {activity : Activity} {survey : Survey α} (h : Composed P T survey) :
      Composed P T (during activity survey)
  | bind {α β : Type} {survey : Survey α} {f : α → Survey β} (h : Composed P T survey)
      (hf : ∀ a, Composed P T (f a)) : Composed P T (survey >>= f)

namespace Composed

/-- Surveys that are composed in this way heed faults. -/
theorem heeds (h : Composed P True survey) : Heeds survey := by
  induction h with
  | pure a => exact .pure a
  | throw h => exact .throw h
  | ask => exact .ask
  | lookUp => exact LookUp.heeds
  | during _ ih => exact .during ih
  | bind _ _ ih ihf => exact .bind ih ihf

/-! ## Failures -/

theorem fail {cause : Cause} (h : ∀ fault, cause = .node fault → fault.IsForeseen) :
    Composed P T (fail cause : Survey α) := by
  refine .throw ?_ nofun
  rintro fault ⟨activities, hcause⟩
  cases hcause
  exact h fault rfl

theorem lift {ε : Type} {cause : ε → Cause} {result : Except ε α}
    (h : ∀ e, result = .error e → ∀ fault, cause e = .node fault → fault.IsForeseen) :
    Composed P T (lift cause result) := by
  cases result with
  | ok a => exact .pure a
  | error e => exact .fail (h e rfl)

/-- A capability that is lacking is no fault of an answer. -/
theorem require {available required : List Capability} :
    Composed P T (Survey.lift .node (Capability.require available required)) := by
  refine .lift fun e he fault hfault => ?_
  rw [Capability.require] at he
  split at he
  · cases he
    cases hfault
    trivial
  · cases he

/-- A total may fail. -/
theorem total {sum : Option α} (h : T) : Composed P T (total sum) := by
  cases sum with
  | some a => exact .pure a
  | none => exact .throw nofun fun _ => h

theorem ite {c : Prop} [Decidable c] {s t : Survey α} (hs : Composed P T s) (ht : Composed P T t) :
    Composed P T (if c then s else t) := by
  split
  · exact hs
  · exact ht

/-! ## Looking things up -/

variable {limits : Limits} {clock : Clock}

theorem header {slot : Slot} (h : P (.header (.slot slot))) : Composed P T (header slot) :=
  .lookUp (.header slot) h

theorem blockIn {slot : Slot} (h : P (.block (.slot slot))) : Composed P T (blockIn slot) :=
  .during (.lookUp (.blockAt slot) h)

theorem committees {epoch : Epoch}
    (h : P (.committees (.slot (clock.firstSlot epoch)) (some epoch))) :
    Composed P T (committees clock epoch) :=
  .lookUp (.committees clock epoch) h

theorem checkTime : Composed P T (checkTime limits) :=
  .ite (.fail fun _ h => by cases h; trivial) (.pure _)

theorem attesting {table : CommitteeTable} {a : Attestation} : Composed P T (attesting table a) :=
  .lift nofun

theorem canonicalWithin {start : Slot} (h : ∀ slot, P (.header (.slot slot))) :
    ∀ {steps : Nat} {slot : Slot}, Composed P T (canonicalWithin limits start steps slot)
  | 0, _ => .fail nofun
  | _ + 1, slot => by
    refine .bind .checkTime fun _ => .bind (.header (h slot)) fun header? => ?_
    split
    · exact .pure _
    · exact .ite (.fail nofun) (canonicalWithin h)

/-- Judging a vote asks for headers. -/
theorem classify {data : AttestationData} {inclusion : Slot}
    (h : ∀ slot, P (.header (.slot slot))) : Composed P T (classify limits clock data inclusion) :=
  .bind (.lift nofun) fun _ => .bind (.during (canonicalWithin h)) fun _ =>
    .bind (.during (canonicalWithin h)) fun _ => .pure _

theorem parentBlock {root : Root} (h : P (.block (.root root))) : Composed P T (parentBlock root) := by
  refine .bind (.during (.lookUp (.blockWith root) h)) fun block? => ?_
  split
  · exact .pure _
  · exact .fail nofun

theorem ancestorsWithin {start oldest : Slot} (h : ∀ root, P (.block (.root root))) :
    ∀ {steps : Nat} {root : Root}, Composed P T (ancestorsWithin limits start oldest steps root)
  | 0, root => .bind (.parentBlock (h root)) fun _ => .ite (.pure _) (.fail nofun)
  | _ + 1, root =>
    .bind (.parentBlock (h root)) fun _ => .ite (.pure _) (.bind .checkTime fun _ =>
      .ite (.pure _) (.bind (ancestorsWithin h) fun _ => .pure _))

theorem ancestors {block : Block} {oldest : Slot} (h : ∀ root, P (.block (.root root))) :
    Composed P T (ancestors limits block oldest) :=
  .ite (.pure _) (.ancestorsWithin h)

theorem proposals : ∀ {duties : List ProposerDuty},
    (∀ duty ∈ duties, P (.block (.slot duty.slot))) → Composed P T (proposals duties)
  | [], _ => .pure _
  | _ :: _, h => by
    rw [List.forall_mem_cons] at h
    exact .bind (.blockIn h.1) fun _ => .bind (proposals h.2) fun _ => .pure _

theorem gatherSlots {find : σ → Slot → Survey (List α × σ)} :
    ∀ {count : Nat} {slot : Slot} {state : σ},
      (∀ s ∈ slotsFrom count slot, ∀ state, Composed P T (find state s)) →
        Composed P T (gatherSlots find count slot state)
  | 0, _, _, _ => .pure _
  | _ + 1, _, state, h => by
    rw [slotsFrom, List.forall_mem_cons] at h
    exact .bind (h.1 state) fun _ => .bind (gatherSlots h.2) fun _ => .pure _

end Composed

/-- What surveys answer does not depend on what has been remembered. -/
theorem Steady.of_composed {node : Answers} {clock : Clock}
    (h : Composed (Request.ByFirstSlot clock) True survey) : Steady node clock survey := by
  induction h with
  | pure a => exact .pure a
  | throw => exact .throw _
  | ask => exact .ask _
  | lookUp l h =>
    cases l with
    | header slot => exact .header slot
    | blockAt slot => exact .blockAt slot
    | blockWith root => exact .blockWith root
    | committees clock' epoch =>
      have hslot : clock'.firstSlot epoch = clock.firstSlot epoch := h
      change Steady node clock (Survey.committees clock' epoch)
      rw [Survey.committees, hslot]
      exact .committees
  | during _ ih => exact .during _ ih
  | bind _ _ ih ihf => exact .bind ih ihf

end Survey

end BeaconDuties
