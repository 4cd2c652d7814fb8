import Std.Data.ExtTreeMap
import BeaconDuties.Chain.Clock
import BeaconDuties.Duty.Committee
import BeaconDuties.Survey.Failure
import BeaconDuties.Survey.Inquiry

/-!
Surveys: inquiries that remember answers and may fail.

An analysis comes back to the same headers, blocks and committees again and again. What has been
answered is kept in a `Memory`, absence included, and is not asked for again; a fault is not kept.
The memory outlives a failure of the survey.

* `Survey.header`, `Survey.blockAt`, `Survey.blockWith` and `Survey.committees` look things up.
* `Survey.ask` asks for what is needed only once.
* `Survey.during` says what is being done, in case it fails.
-/

namespace BeaconDuties

/-- What has been answered so far. -/
structure Memory where
  headers : Std.ExtTreeMap Slot (Option Header)
  blocksBySlot : Std.ExtTreeMap Slot (Option Block)
  blocksByRoot : Std.ExtTreeMap Root (Option Block)
  committees : Std.ExtTreeMap Epoch CommitteeTable

/-- Nothing has been answered. -/
def Memory.empty : Memory := ⟨∅, ∅, ∅, ∅⟩

/-- An inquiry that remembers answers and may fail. -/
abbrev Survey := ExceptT Failure (StateT Memory Inquiry)

namespace Survey

variable {α σ : Type}

/-- The inquiry of a survey that starts with a given memory; the memory afterwards comes with the
    result. -/
def resume (survey : Survey α) (memory : Memory) : Inquiry (Except Failure α × Memory) :=
  survey memory

/-- The inquiry of a survey that starts with nothing remembered. -/
def inquiry (survey : Survey α) : Inquiry (Except Failure α) := do
  return (← resume survey .empty).1

/-- Fails. -/
def fail (cause : Cause) : Survey α := throw (.because [] cause)

/-- Goes on with a result unless there is a fault. -/
def lift {ε : Type} (cause : ε → Cause) : Except ε α → Survey α
  | .ok result => pure result
  | .error fault => fail (cause fault)

/-- Goes on with a total unless it does not fit. -/
def total : Option α → Survey α
  | some result => pure result
  | none => throw .overflow

/-- Says what is being done. -/
def during (activity : Activity) (survey : Survey α) : Survey α :=
  ExceptT.adapt (Failure.during activity) survey

/-- Asks a node. -/
def ask (request : Request) : Survey request.Answer := fun memory =>
  .ask request fun
    | .ok answer => .done (.ok answer, memory)
    | .error fault => .done (.error (.because [] (.node fault)), memory)

/-- Asks for what has not been answered yet, and keeps the answer. -/
def remember (known : Memory → Option α) (question : Survey α) (keep : Memory → α → Memory) :
    Survey α := do
  match known (← get) with
  | some answer => return answer
  | none =>
    let answer ← question
    modify fun memory => keep memory answer
    return answer

/-- The header of a slot. -/
def header (slot : Slot) : Survey (Option Header) :=
  remember (·.headers[slot]?) (ask (.header (.slot slot)))
    fun memory answer => { memory with headers := memory.headers.insert slot answer }

/-- The block of a slot. -/
def blockAt (slot : Slot) : Survey (Option Block) :=
  remember (·.blocksBySlot[slot]?) (ask (.block (.slot slot)))
    fun memory answer => { memory with blocksBySlot := memory.blocksBySlot.insert slot answer }

/-- The block of a root. -/
def blockWith (root : Root) : Survey (Option Block) :=
  remember (·.blocksByRoot[root]?) (ask (.block (.root root)))
    fun memory answer => { memory with blocksByRoot := memory.blocksByRoot.insert root answer }

/-- The committees of an epoch. -/
def committees (clock : Clock) (epoch : Epoch) : Survey CommitteeTable :=
  let slot := clock.firstSlot epoch
  remember (·.committees[epoch]?)
    (during (.obtainingCommittees slot) do
      return .ofList (← ask (.committees (.slot slot) (some epoch))))
    fun memory answer => { memory with committees := memory.committees.insert epoch answer }

/-- Goes through `count` slots from `slot` on and gathers what is found in each of them, given what
    the slots before have left. -/
def gatherSlots (find : σ → Slot → Survey (List α × σ)) : Nat → Slot → σ → Survey (List α)
  | 0, _, _ => return []
  | count + 1, slot, state => do
    let (found, state) ← find state slot
    return found ++ (← gatherSlots find count (slot + 1) state)

end Survey

end BeaconDuties
