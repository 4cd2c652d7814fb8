import Mathlib.Data.List.Sigma
import BeaconDuties.Proofs.Duty.Committee
import BeaconDuties.Proofs.Survey.Course

/-!
What a memory keeps.

All that is looked up has a `Key`. A `Memory` keeps at most one answer for each key
(`Memory.get?`), and a turn in which a node answers such a look-up tells a `Fact`, that is, a key
with its answer (`Turn.fact?`). Turns that end in a fault tell none.

A `LookUp` gives the answer that is kept for its key; if there is none, it asks once, and keeps what
is answered (`LookUp.course_known`, `LookUp.course_unknown`).
-/

namespace BeaconDuties

/-- What can be looked up. -/
inductive Key where
  | header (slot : Slot)
  | blockAt (slot : Slot)
  | blockWith (root : Root)
  | committees (epoch : Epoch)
deriving DecidableEq

/-- The type of the answers that are kept for a key. -/
abbrev Key.Answer : Key → Type
  | header _ => Option Header
  | blockAt _ => Option Block
  | blockWith _ => Option Block
  | committees _ => CommitteeTable

/-- A key and the answer for it. -/
abbrev Fact := Σ key : Key, key.Answer

/-! ## Memories -/

namespace Memory

/-- The answer that is kept for a key. -/
def get? (memory : Memory) : (key : Key) → Option key.Answer
  | .header slot => memory.headers[slot]?
  | .blockAt slot => memory.blocksBySlot[slot]?
  | .blockWith root => memory.blocksByRoot[root]?
  | .committees epoch => memory.committees[epoch]?

/-- Keeps an answer for a key. -/
def keep (memory : Memory) : (key : Key) → key.Answer → Memory
  | .header slot, answer => { memory with headers := memory.headers.insert slot answer }
  | .blockAt slot, answer => { memory with blocksBySlot := memory.blocksBySlot.insert slot answer }
  | .blockWith root, answer =>
    { memory with blocksByRoot := memory.blocksByRoot.insert root answer }
  | .committees epoch, answer =>
    { memory with committees := memory.committees.insert epoch answer }

variable {memory : Memory} {key other : Key}

theorem get?_empty : empty.get? key = none := by
  cases key <;> simp [get?, empty]

theorem get?_keep_self {answer : key.Answer} : (memory.keep key answer).get? key = some answer := by
  cases key <;> simp [get?, keep]

theorem get?_keep_of_ne {answer : key.Answer} (h : other ≠ key) :
    (memory.keep key answer).get? other = memory.get? other := by
  cases key <;> cases other <;> try rfl
  all_goals
    rw [keep, get?, get?, Std.ExtTreeMap.getElem?_insert, if_neg]
    exact fun hc => h (congrArg _ (Std.LawfulEqOrd.eq_of_compare hc).symm)

end Memory

/-! ## Look-ups -/

/-- A look-up. Committees are asked for by the first slot of their epoch. -/
inductive LookUp where
  | header (slot : Slot)
  | blockAt (slot : Slot)
  | blockWith (root : Root)
  | committees (clock : Clock) (epoch : Epoch)

namespace LookUp

/-- The key that is looked up. -/
abbrev key : LookUp → Key
  | header slot => .header slot
  | blockAt slot => .blockAt slot
  | blockWith root => .blockWith root
  | committees _ epoch => .committees epoch

/-- The request that is made if no answer is kept. -/
def request : LookUp → Request
  | header slot => .header (.slot slot)
  | blockAt slot => .block (.slot slot)
  | blockWith root => .block (.root root)
  | committees clock epoch => .committees (.slot (clock.firstSlot epoch)) (some epoch)

/-- The answer for the key in the reply to the request. -/
def ofReply : (lookUp : LookUp) → lookUp.request.Answer → lookUp.key.Answer
  | header _, reply => reply
  | blockAt _, reply => reply
  | blockWith _, reply => reply
  | committees .., list => .ofList list

/-- Every answer for a key may come from a reply. -/
theorem exists_reply : ∀ {lookUp : LookUp} (answer : lookUp.key.Answer),
    ∃ reply, lookUp.ofReply reply = answer
  | header _, answer => ⟨answer, rfl⟩
  | blockAt _, answer => ⟨answer, rfl⟩
  | blockWith _, answer => ⟨answer, rfl⟩
  | committees .., table => table.exists_ofList

/-- What is being done. -/
def activities : LookUp → List Activity
  | committees clock epoch => [.obtainingCommittees (clock.firstSlot epoch)]
  | _ => []

/-- The failure of the look-up because of a fault. -/
def failure (lookUp : LookUp) (fault : NodeFault) : Failure :=
  .because lookUp.activities (.node fault)

/-- The survey of a look-up. -/
def survey : (lookUp : LookUp) → Survey lookUp.key.Answer
  | header slot => Survey.header slot
  | blockAt slot => Survey.blockAt slot
  | blockWith root => Survey.blockWith root
  | committees clock epoch => Survey.committees clock epoch

/-- What is asked if no answer is kept. -/
def question : (lookUp : LookUp) → Survey lookUp.key.Answer
  | header slot => Survey.ask (.header (.slot slot))
  | blockAt slot => Survey.ask (.block (.slot slot))
  | blockWith root => Survey.ask (.block (.root root))
  | committees clock epoch =>
    Survey.during (.obtainingCommittees (clock.firstSlot epoch)) do
      return .ofList (← Survey.ask (.committees (.slot (clock.firstSlot epoch)) (some epoch)))

theorem survey_eq (lookUp : LookUp) :
    lookUp.survey = .remember (·.get? lookUp.key) lookUp.question (·.keep lookUp.key ·) := by
  cases lookUp <;> rfl

end LookUp

/-- The key of a request, if its answers are kept. -/
def Request.key? : Request → Option Key
  | .header (.slot slot) => some (.header slot)
  | .block (.slot slot) => some (.blockAt slot)
  | .block (.root root) => some (.blockWith root)
  | .committees (.slot _) (some epoch) => some (.committees epoch)
  | _ => none

/-- The fact that the reply to a request tells, if it is kept. -/
def Request.fact? : (request : Request) → request.Answer → Option Fact
  | .header (.slot slot), reply => some ⟨.header slot, reply⟩
  | .block (.slot slot), reply => some ⟨.blockAt slot, reply⟩
  | .block (.root root), reply => some ⟨.blockWith root, reply⟩
  | .committees (.slot _) (some epoch), list => some ⟨.committees epoch, .ofList list⟩
  | _, _ => none

/-- The fact that a turn tells. -/
def Turn.fact? (turn : Turn) : Option Fact :=
  turn.answer.toOption.bind turn.request.fact?

/-- The facts that turns tell. -/
def factsOf (turns : List Turn) : List Fact := turns.filterMap Turn.fact?

@[simp] theorem factsOf_nil : factsOf [] = [] := rfl

@[simp] theorem factsOf_append (first rest : List Turn) :
    factsOf (first ++ rest) = factsOf first ++ factsOf rest := List.filterMap_append

theorem key?_request (lookUp : LookUp) : lookUp.request.key? = some lookUp.key := by
  cases lookUp <;> rfl

theorem fact?_reply (lookUp : LookUp) (reply : lookUp.request.Answer) :
    Turn.fact? ⟨lookUp.request, .ok reply⟩ = some ⟨lookUp.key, lookUp.ofReply reply⟩ := by
  cases lookUp <;> rfl

theorem Request.map_fact? (request : Request) (reply : request.Answer) :
    (request.fact? reply).map Sigma.fst = request.key? := by
  cases request with
  | header id => cases id <;> rfl
  | block id => cases id <;> rfl
  | committees state epoch => cases state <;> cases epoch <;> rfl
  | _ => rfl

/-- A fact is told in answer to a request for its key. -/
theorem key?_of_fact? {turn : Turn} {fact : Fact} (h : turn.fact? = some fact) :
    turn.request.key? = some fact.1 := by
  obtain ⟨reply, -, hreply⟩ := Option.bind_eq_some_iff.1 h
  rw [← turn.request.map_fact? reply, hreply, Option.map_some]

/-- Whenever a look-up is answered, this tells a fact. -/
theorem exists_fact? {turn : Turn} {key : Key} (hkey : turn.request.key? = some key)
    {reply : turn.request.Answer} (h : turn.answer = .ok reply) :
    ∃ answer, turn.fact? = some ⟨key, answer⟩ := by
  rw [← turn.request.map_fact? reply, Option.map_eq_some_iff] at hkey
  obtain ⟨⟨_, answer⟩, hfact, rfl⟩ := hkey
  exact ⟨answer, by rw [Turn.fact?, h, ← hfact]; rfl⟩

/-! ## Courses of look-ups -/

namespace LookUp

open Survey

variable {memory after : Memory} {turns : List Turn} {lookUp : LookUp}
  {result : Except Failure lookUp.key.Answer}

theorem course_question : (lookUp.question.resume memory).Course turns (result, after) ↔
    after = memory ∧ ∃ answer, turns = [⟨lookUp.request, answer⟩] ∧
      result = (answer.mapError lookUp.failure).map lookUp.ofReply := by
  cases lookUp with
  | committees clock epoch =>
    refine course_during.trans ?_
    simp only [course_bind, course_pure]
    constructor
    · rintro ⟨inner, ⟨failure, h, rfl⟩ | ⟨_, _, list, _, h, ⟨rfl, rfl, rfl⟩, rfl⟩, rfl⟩
      all_goals obtain ⟨rfl, fault | reply, rfl, hresult⟩ := course_ask.1 h
      all_goals cases hresult
      · exact ⟨rfl, .error fault, rfl, rfl⟩
      · exact ⟨rfl, .ok list, rfl, rfl⟩
    · rintro ⟨rfl, fault | reply, rfl, rfl⟩
      · exact ⟨_, .inl ⟨_, course_ask.2 ⟨rfl, .error fault, rfl, rfl⟩, rfl⟩, rfl⟩
      · exact ⟨_, .inr ⟨_, [], reply, _, course_ask.2 ⟨rfl, .ok reply, rfl, rfl⟩,
          ⟨rfl, rfl, rfl⟩, rfl⟩, rfl⟩
  | _ =>
    refine course_ask.trans (and_congr_right fun _ => exists_congr fun answer => ?_)
    cases answer <;> exact Iff.rfl

/-- An answer that is kept is given without asking. -/
theorem course_known {answer : lookUp.key.Answer} (hkey : memory.get? lookUp.key = some answer) :
    (lookUp.survey.resume memory).Course turns (result, after) ↔
      turns = [] ∧ result = .ok answer ∧ after = memory := by
  rw [survey_eq, course_remember_known hkey]

/-- If no answer is kept, a node is asked once. A fault leaves the memory as it is. -/
theorem course_unknown (hkey : memory.get? lookUp.key = none) :
    (lookUp.survey.resume memory).Course turns (result, after) ↔
      (∃ fault, turns = [⟨lookUp.request, .error fault⟩] ∧
        result = .error (lookUp.failure fault) ∧ after = memory) ∨
      ∃ reply, turns = [⟨lookUp.request, .ok reply⟩] ∧ result = .ok (lookUp.ofReply reply) ∧
        after = memory.keep lookUp.key (lookUp.ofReply reply) := by
  rw [survey_eq, course_remember_unknown hkey]
  simp only [course_question]
  constructor
  · rintro ⟨_, ⟨rfl, fault | reply, rfl, rfl⟩, rfl⟩
    · exact .inl ⟨fault, rfl, rfl, rfl⟩
    · exact .inr ⟨reply, rfl, rfl, rfl⟩
  · rintro (⟨fault, rfl, rfl, rfl⟩ | ⟨reply, rfl, rfl, rfl⟩)
    · exact ⟨_, ⟨rfl, .error fault, rfl, rfl⟩, rfl⟩
    · exact ⟨_, ⟨rfl, .ok reply, rfl, rfl⟩, rfl⟩

/-- A look-up takes no turn, or one in which it asks for its key. -/
theorem turns_of_course (h : (lookUp.survey.resume memory).Course turns (result, after)) :
    turns = [] ∨ ∃ answer, turns = [⟨lookUp.request, answer⟩] := by
  cases hkey : memory.get? lookUp.key with
  | some answer => exact .inl ((course_known hkey).1 h).1
  | none =>
    obtain ⟨fault, ht, -⟩ | ⟨reply, ht, -⟩ := (course_unknown hkey).1 h
    · exact .inr ⟨_, ht⟩
    · exact .inr ⟨_, ht⟩

/-- A look-up heeds faults. -/
theorem heeds : Heeds lookUp.survey := by
  rw [survey_eq]
  refine .remember ?_
  cases lookUp with
  | committees clock epoch => exact .during (.bind .ask fun _ => .pure _)
  | _ => exact .ask

end LookUp

end BeaconDuties
