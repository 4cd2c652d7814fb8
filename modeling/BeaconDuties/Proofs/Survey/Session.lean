import BeaconDuties.Proofs.Survey.Keeping

/-!
Operations on one memory, one after another.

In a `Session` single look-ups and walks back to canonical headers share a memory, while the answers
of the node may change all the time. Answers are remembered and faults are not
(`Session.memoized`): no key is answered twice, the memory holds the answers and nothing else,
and every operation does what it would do by itself if the node repeated its first answers.
-/

namespace BeaconDuties

open Survey

/-- An operation on a memory. -/
inductive Operation where
  | single (lookUp : LookUp)
  /-- Walks back from a slot to a canonical header. -/
  | walk (limits : Limits) (slot : Slot)

namespace Operation

/-- The type of the results of an operation. -/
abbrev Result : Operation → Type
  | single lookUp => lookUp.key.Answer
  | walk .. => Header

/-- The survey of an operation. -/
def survey : (operation : Operation) → Survey operation.Result
  | single lookUp => lookUp.survey
  | walk limits slot => Survey.canonical limits slot

theorem composed : ∀ {operation : Operation}, Composed (fun _ => True) True operation.survey
  | single lookUp => .lookUp lookUp trivial
  | walk .. => .canonicalWithin fun _ => trivial

end Operation

/-- An operation, the turns that it takes, and its result. -/
structure Visit where
  operation : Operation
  turns : List Turn
  result : Except Failure operation.Result

/-- All turns of visits. -/
def turnsOf (visits : List Visit) : List Turn := visits.flatMap (·.turns)

/-- Visits that follow one another, from the memory before them to the memory after them. The memory
    is passed on by operations that fail, too. -/
inductive Session : Memory → List Visit → Memory → Prop where
  | nil {memory : Memory} : Session memory [] memory
  | cons {memory between after : Memory} {visit : Visit} {visits : List Visit}
      (h : (visit.operation.survey.resume memory).Course visit.turns (visit.result, between))
      (rest : Session between visits after) : Session memory (visit :: visits) after

/-- What a visit does if these facts are known before it. -/
structure Visit.Memoized (known : List Fact) (visit : Visit) : Prop where
  /-- A look-up gives the answer that is known. If there is none, it asks the node once. -/
  lookUp : ∀ lookUp turns result, visit = ⟨.single lookUp, turns, result⟩ →
    match known.dlookup lookUp.key with
    | some answer => turns = [] ∧ result = .ok answer
    | none =>
      (∃ fault, turns = [⟨lookUp.request, .error fault⟩] ∧
        result = .error (lookUp.failure fault)) ∨
      ∃ reply, turns = [⟨lookUp.request, .ok reply⟩] ∧ result = .ok (lookUp.ofReply reply)
  /-- Every operation has the result that it has by itself if the node answers what is known. It
      asks for the rest only. -/
  unaided : ∃ all after, (visit.operation.survey.resume .empty).Course all (visit.result, after) ∧
    Aided (fun key => known.dlookup key) all visit.turns

/-- Answers are remembered, and faults are not. -/
structure Memoized (visits : List Visit) (after : Memory) : Prop where
  /-- No key is answered twice. -/
  answeredOnce : (factsOf (turnsOf visits)).NodupKeys
  /-- What has been answered is not asked for again. -/
  askedUntilAnswered : (turnsOf visits).Pairwise fun turn later =>
    ∀ fact, turn.fact? = some fact → later.request.key? ≠ some fact.1
  /-- What has been answered is kept, and nothing else. -/
  kept : ∀ key, after.get? key = (factsOf (turnsOf visits)).dlookup key
  /-- Every visit knows what has been answered in those before it. -/
  visit : ∀ before visit later, visits = before ++ visit :: later →
    visit.Memoized (factsOf (turnsOf before))

namespace Session

variable {memory between after : Memory} {visits before later : List Visit} {visit : Visit}

theorem keeps (h : Session memory visits after) : Keeps memory (turnsOf visits) after := by
  induction h with
  | nil => exact .nil
  | cons h _ ih => exact (Operation.composed.keeps h).append ih

/-- A session may be stopped between two visits. -/
theorem split (h : Session memory (before ++ later) after) :
    ∃ between, Session memory before between ∧ Session between later after := by
  induction before generalizing memory with
  | nil => exact ⟨memory, .nil, h⟩
  | cons visit before ih =>
    cases h with
    | cons h rest =>
      obtain ⟨between, hbefore, hlater⟩ := ih rest
      exact ⟨between, .cons h hbefore, hlater⟩

/-- A visit depends on what is known before it. -/
theorem memoized_of_course {known : List Fact} (hknown : ∀ key, memory.get? key = known.dlookup key)
    (h : (visit.operation.survey.resume memory).Course visit.turns (visit.result, after)) :
    visit.Memoized known where
  lookUp := by
    rintro lookUp turns result rfl
    cases hk : known.dlookup lookUp.key with
    | some answer =>
      obtain ⟨ht, hr, -⟩ := (LookUp.course_known ((hknown _).trans hk)).1 h
      exact ⟨ht, hr⟩
    | none =>
      refine ((LookUp.course_unknown ((hknown _).trans hk)).1 h).imp ?_ ?_
      · exact fun ⟨fault, ht, hr, _⟩ => ⟨fault, ht, hr⟩
      · exact fun ⟨reply, ht, hr, _⟩ => ⟨reply, ht, hr⟩
  unaided := by
    obtain ⟨all, after', hall, -, haided⟩ :=
      Operation.composed.exists_unaided Memory.empty_within h
    rw [show memory.get? = fun key => known.dlookup key from funext hknown] at haided
    exact ⟨all, after', hall, haided⟩

/-- **Answers are remembered and faults are not.** -/
theorem memoized (h : Session .empty visits after) : Memoized visits after where
  answeredOnce := h.keeps.nodupKeys
  askedUntilAnswered := h.keeps.once
  kept := fun key => by rw [h.keeps.kept, Memory.get?_empty, Option.none_or]
  visit := by
    rintro before visit later rfl
    obtain ⟨memory, hbefore, hlater⟩ := h.split
    cases hlater with
    | cons hvisit rest =>
      refine memoized_of_course (fun key => ?_) hvisit
      rw [hbefore.keeps.kept, Memory.get?_empty, Option.none_or]

end Session

end BeaconDuties
