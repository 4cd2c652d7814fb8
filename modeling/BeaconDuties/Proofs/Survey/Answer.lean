import BeaconDuties.Survey.Memory

/-!
What surveys answer if the node always answers alike.

* `Survey.answer` is the result of a survey for fixed answers, starting with nothing remembered.
* A memory is `Memory.Faithful` if all that it holds is what the node answers.
* A survey is `Survey.Steady` if it has the same result from every faithful memory, and leaves a
  faithful one.

Steady surveys may be taken apart: the answer of a sequence is the sequence of the answers
(`Survey.Steady.answer_bind`), so that what has been remembered on the way does not matter.
`Survey.Finds` says that a survey comes to a result from some faithful memory, and `Finds.bind`
takes such a survey apart. `Survey.Yields` says that it does from every faithful memory, and
`Yields.bind` puts such a survey together.
-/

namespace BeaconDuties

variable {α β : Type} {node : Answers} {clock : Clock}

/-- Running a sequence of inquiries runs the first of them, and then the one that follows from its
    result. -/
theorem Inquiry.run_bind (inquiry : Inquiry α) (f : α → Inquiry β) :
    (inquiry.bind f).run node =
      (((f (inquiry.run node).1).run node).1,
        (inquiry.run node).2 ++ ((f (inquiry.run node).1).run node).2) := by
  induction inquiry with
  | done result => simp [Inquiry.bind, Inquiry.run]
  | ask request next ih => simp [Inquiry.bind, Inquiry.run, ih]

/-- A node has these committees for an epoch. -/
def Answers.HasCommittees (node : Answers) (clock : Clock) (epoch : Epoch)
    (table : CommitteeTable) : Prop :=
  ∃ list, node (.committees (.slot (clock.firstSlot epoch)) (some epoch)) = .ok list ∧
    table = .ofList list

theorem Answers.HasCommittees.unique {epoch : Epoch} {table table' : CommitteeTable}
    (h : node.HasCommittees clock epoch table) (h' : node.HasCommittees clock epoch table') :
    table = table' := by
  obtain ⟨list, hl, rfl⟩ := h
  obtain ⟨list', hl', rfl⟩ := h'
  rw [hl] at hl'
  cases hl'
  rfl

/-- All that is remembered is what the node answers. -/
structure Memory.Faithful (node : Answers) (clock : Clock) (memory : Memory) : Prop where
  headers : ∀ {slot answer}, memory.headers[slot]? = some answer →
    node (.header (.slot slot)) = .ok answer
  blocksBySlot : ∀ {slot answer}, memory.blocksBySlot[slot]? = some answer →
    node (.block (.slot slot)) = .ok answer
  blocksByRoot : ∀ {root answer}, memory.blocksByRoot[root]? = some answer →
    node (.block (.root root)) = .ok answer
  committees : ∀ {epoch table}, memory.committees[epoch]? = some table →
    node.HasCommittees clock epoch table

theorem Memory.Faithful.empty : Memory.empty.Faithful node clock := by
  constructor <;> intros <;> simp_all [Memory.empty]

namespace Survey

/-- The result of a survey for fixed answers, and the memory after it. -/
def outcome (node : Answers) (survey : Survey α) (memory : Memory) : Except Failure α × Memory :=
  ((survey.resume memory).run node).1

/-- The result of a survey for fixed answers, with nothing remembered before it. -/
def answer (node : Answers) (survey : Survey α) : Except Failure α := (survey.inquiry.run node).1

theorem answer_eq (survey : Survey α) : survey.answer node = (survey.outcome node .empty).1 := by
  change (Inquiry.run node (Inquiry.bind (survey.resume .empty) fun x => .done x.1)).1 = _
  rw [Inquiry.run_bind]
  rfl

theorem outcome_bind (survey : Survey α) (f : α → Survey β) (memory : Memory) :
    outcome node (survey >>= f) memory =
      match outcome node survey memory with
      | (.ok a, after) => outcome node (f a) after
      | (.error failure, after) => (.error failure, after) := by
  change (Inquiry.run node (Inquiry.bind (survey memory) fun x => ExceptT.bindCont f x.1 x.2)).1 = _
  rw [Inquiry.run_bind]
  change ((ExceptT.bindCont f (outcome node survey memory).1 (outcome node survey memory).2).run
    node).1 = _
  rcases outcome node survey memory with ⟨_ | a, after⟩ <;> rfl

theorem outcome_bind_pure (survey : Survey α) (f : α → β) (memory : Memory) :
    outcome node (survey >>= fun a => pure (f a)) memory =
      ((outcome node survey memory).1.map f, (outcome node survey memory).2) := by
  rw [outcome_bind]
  rcases outcome node survey memory with ⟨_ | a, after⟩ <;> rfl

theorem outcome_ask (request : Request) (memory : Memory) :
    outcome node (ask request) memory =
      ((node request).mapError fun fault => .because [] (.node fault), memory) := by
  simp only [outcome, resume, ask, Inquiry.run]
  cases node request <;> rfl

theorem outcome_during (activity : Activity) (survey : Survey α) (memory : Memory) :
    outcome node (during activity survey) memory =
      ((outcome node survey memory).1.mapError (.during activity),
        (outcome node survey memory).2) := by
  change (Inquiry.run node (Inquiry.bind (survey memory)
    fun x => .done (x.1.mapError (Failure.during activity), x.2))).1 = _
  rw [Inquiry.run_bind]
  rfl

theorem outcome_remember (known : Memory → Option α) (question : Survey α)
    (keep : Memory → α → Memory) (memory : Memory) :
    outcome node (remember known question keep) memory =
      match known memory with
      | some answer => (.ok answer, memory)
      | none =>
        match outcome node question memory with
        | (.ok answer, after) => (.ok answer, keep after answer)
        | (.error failure, after) => (.error failure, after) := by
  have hget : outcome node (get : Survey Memory) memory = (.ok memory, memory) := rfl
  rw [remember, outcome_bind, hget]
  cases hk : known memory with
  | some answer =>
    simp only [hk]
    rfl
  | none =>
    simp only [hk, outcome_bind]
    rcases outcome node question memory with ⟨_ | answer, after⟩ <;> rfl

/-! ## Steady surveys -/

/-- What has been remembered faithfully does not change the result of a survey, and the survey
    remembers faithfully what it adds. -/
structure Steady (node : Answers) (clock : Clock) (survey : Survey α) : Prop where
  result : ∀ {memory}, memory.Faithful node clock →
    (survey.outcome node memory).1 = survey.answer node
  memory : ∀ {memory}, memory.Faithful node clock →
    (survey.outcome node memory).2.Faithful node clock

namespace Steady

variable {survey : Survey α} {f : α → Survey β}

/-- A survey that neither reads nor changes its memory is steady. -/
theorem of_outcome {result : Except Failure α}
    (h : ∀ memory, survey.outcome node memory = (result, memory)) : Steady node clock survey := by
  refine ⟨fun _ => ?_, fun hm => ?_⟩
  · rw [answer_eq, h, h]
  · rwa [h]

theorem pure (a : α) : Steady node clock (pure a : Survey α) := .of_outcome fun _ => rfl

theorem throw (failure : Failure) : Steady node clock (throw failure : Survey α) :=
  .of_outcome fun _ => rfl

theorem fail (cause : Cause) : Steady node clock (fail cause : Survey α) := .throw _

theorem ask (request : Request) : Steady node clock (ask request) := .of_outcome (outcome_ask _)

theorem lift {ε : Type} (cause : ε → Cause) (result : Except ε α) :
    Steady node clock (lift cause result) := by
  cases result with
  | ok a => exact .pure a
  | error fault => exact .fail _

theorem total (sum : Option α) : Steady node clock (total sum) := by
  cases sum with
  | some a => exact .pure a
  | none => exact .throw _

theorem during (activity : Activity) (h : Steady node clock survey) :
    Steady node clock (during activity survey) := by
  refine ⟨fun hm => ?_, fun hm => ?_⟩
  · rw [answer_eq, outcome_during, outcome_during, h.result hm, answer_eq]
  · rw [outcome_during]
    exact h.memory hm

theorem answer_bind (h : Steady node clock survey) (hf : ∀ a, Steady node clock (f a)) :
    (survey >>= f).answer node = survey.answer node >>= fun a => (f a).answer node := by
  have hm := h.memory .empty
  rw [answer_eq, outcome_bind, answer_eq survey]
  rcases hs : outcome node survey .empty with ⟨failure | a, after⟩
  · rfl
  · rw [hs] at hm
    exact (hf a).result hm

theorem bind (h : Steady node clock survey) (hf : ∀ a, Steady node clock (f a)) :
    Steady node clock (survey >>= f) := by
  refine ⟨fun {memory} hm => ?_, fun {memory} hm => ?_⟩
  all_goals
    have hr := h.result hm
    have hm := h.memory hm
    rw [outcome_bind]
    rcases hs : outcome node survey memory with ⟨failure | a, after⟩
    all_goals rw [hs] at hr hm
  · rw [h.answer_bind hf, ← hr]
    rfl
  · rw [h.answer_bind hf, ← hr]
    exact (hf a).result hm
  · exact hm
  · exact (hf a).memory hm

theorem bind_eq_ok (h : Steady node clock survey) (hf : ∀ a, Steady node clock (f a)) {b : β} :
    (survey >>= f).answer node = .ok b ↔
      ∃ a, survey.answer node = .ok a ∧ (f a).answer node = .ok b := by
  rw [h.answer_bind hf]
  cases survey.answer node with
  | error failure => simp [Bind.bind, Except.bind]
  | ok a => simp [Bind.bind, Except.bind]

/-- A sequence succeeds if its parts do. -/
theorem exists_ok_bind (h : Steady node clock survey) (hf : ∀ a, Steady node clock (f a)) {a : α}
    (ha : survey.answer node = .ok a) (hb : ∃ b, (f a).answer node = .ok b) :
    ∃ b, (survey >>= f).answer node = .ok b := by
  obtain ⟨b, hb⟩ := hb
  exact ⟨b, (h.bind_eq_ok hf).2 ⟨a, ha, hb⟩⟩

theorem ite {c : Prop} [Decidable c] {s t : Survey α} (hs : Steady node clock s)
    (ht : Steady node clock t) : Steady node clock (if c then s else t) := by
  split
  · exact hs
  · exact ht

end Steady

@[simp] theorem answer_pure (a : α) : answer node (pure a) = .ok a := rfl

@[simp] theorem answer_throw (failure : Failure) :
    answer node (throw failure : Survey α) = .error failure := rfl

@[simp] theorem answer_fail (cause : Cause) :
    answer node (fail cause : Survey α) = .error (.because [] cause) := rfl

theorem mapError_eq_ok {ε δ : Type} {result : Except ε α} {g : ε → δ} {a : α} :
    result.mapError g = .ok a ↔ result = .ok a := by
  constructor
  · intro h
    cases result with
    | ok b =>
      cases h
      rfl
    | error e => cases h
  · rintro rfl
    rfl

/-- A result of which something is told is there. -/
theorem exists_ok_of_toOption_map {ε γ : Type} {result : Except ε α} {f : α → γ} {c : γ}
    (h : result.toOption.map f = some c) : ∃ a, result = .ok a ∧ f a = c := by
  cases result with
  | error e => simp [Except.toOption] at h
  | ok a => exact ⟨a, rfl, by simpa [Except.toOption] using h⟩

@[simp] theorem answer_ask_eq_ok {request : Request} {reply : request.Answer} :
    answer node (ask request) = .ok reply ↔ node request = .ok reply := by
  rw [answer_eq, outcome_ask]
  exact mapError_eq_ok

@[simp] theorem answer_lift_eq_ok {ε : Type} {cause : ε → Cause} {result : Except ε α} {a : α} :
    answer node (lift cause result) = .ok a ↔ result = .ok a := by
  cases result <;> simp [lift]

@[simp] theorem answer_total_eq_ok {sum : Option α} {a : α} :
    answer node (total sum) = .ok a ↔ sum = some a := by
  cases sum <;> simp [total]

@[simp] theorem answer_during_eq_ok {activity : Activity} {survey : Survey α} {a : α} :
    answer node (during activity survey) = .ok a ↔ answer node survey = .ok a := by
  rw [answer_eq, outcome_during, ← answer_eq]
  exact mapError_eq_ok

/-! ## Results -/

/-- A survey comes to a result from some faithful memory. -/
def Finds (node : Answers) (clock : Clock) (survey : Survey α) (a : α) : Prop :=
  ∃ memory : Memory, memory.Faithful node clock ∧ (survey.outcome node memory).1 = .ok a

section Finds

variable {survey : Survey α} {f : α → Survey β} {a : α} {b : β}

theorem finds_of_answer (h : answer node survey = .ok a) : Finds node clock survey a :=
  ⟨.empty, .empty, answer_eq survey ▸ h⟩

theorem Steady.finds_iff (h : Steady node clock survey) :
    Finds node clock survey a ↔ answer node survey = .ok a :=
  ⟨fun ⟨_, hm, ha⟩ => h.result hm ▸ ha, finds_of_answer⟩

/-- What a sequence finds follows from what its first part answers. -/
theorem Finds.bind (h : Finds node clock (survey >>= f) b) (hs : Steady node clock survey) :
    ∃ a, answer node survey = .ok a ∧ Finds node clock (f a) b := by
  obtain ⟨memory, hm, h⟩ := h
  have hr := hs.result hm
  have ha := hs.memory hm
  rw [outcome_bind] at h
  rcases ho : outcome node survey memory with ⟨failure | a, after⟩
  all_goals rw [ho] at hr ha h
  · cases h
  · exact ⟨a, hr.symm, after, ha, h⟩

@[simp] theorem finds_pure {a' : α} : Finds node clock (pure a : Survey α) a' ↔ a = a' := by
  simp [(Steady.pure a).finds_iff]

@[simp] theorem not_finds_fail {cause : Cause} : ¬ Finds node clock (fail cause : Survey α) a := by
  simp [(Steady.fail cause).finds_iff]

end Finds

/-- A survey comes to a result from every faithful memory. -/
structure Yields (node : Answers) (clock : Clock) (survey : Survey α) (a : α) : Prop where
  result : ∀ {memory : Memory}, memory.Faithful node clock →
    (survey.outcome node memory).1 = .ok a

section Yields

variable {survey : Survey α} {f : α → Survey β} {a : α} {b : β}

theorem Yields.answer (h : Yields node clock survey a) : answer node survey = .ok a :=
  (answer_eq survey).trans (h.result .empty)

/-- A steady survey that comes to a result does so from every faithful memory. -/
theorem Steady.yields (hs : Steady node clock survey) (h : Survey.answer node survey = .ok a) :
    Yields node clock survey a :=
  ⟨fun hm => (hs.result hm).trans h⟩

theorem Yields.pure (a : α) : Yields node clock (pure a : Survey α) a := ⟨fun _ => rfl⟩

/-- A sequence yields what its second part yields after what the first part answers. -/
theorem Yields.bind (ha : Survey.answer node survey = .ok a) (hs : Steady node clock survey)
    (h : Yields node clock (f a) b) : Yields node clock (survey >>= f) b := by
  refine ⟨fun {memory} hm => ?_⟩
  have hr := hs.result hm
  have hm' := hs.memory hm
  rw [outcome_bind]
  rcases ho : outcome node survey memory with ⟨failure | a', after⟩
  all_goals
    rw [ho] at hr hm'
    rw [ha] at hr
    cases hr
  exact h.result hm'

end Yields

/-! ## Looking things up -/

section Remember

variable {known : Memory → Option α} {question : Survey α} {keep : Memory → α → Memory}

theorem answer_remember (hk : known .empty = none) :
    (remember known question keep).answer node = question.answer node := by
  rw [answer_eq, answer_eq, outcome_remember]
  simp only [hk]
  rcases outcome node question .empty with ⟨failure | a, after⟩ <;> rfl

/-- A question may be answered from the memory if the memory knows nothing but its answer. -/
theorem Steady.remember (hq : Steady node clock question) (hk : known .empty = none)
    (hknown : ∀ {memory a}, memory.Faithful node clock → known memory = some a →
      question.answer node = .ok a)
    (hkeep : ∀ {memory a}, memory.Faithful node clock → question.answer node = .ok a →
      (keep memory a).Faithful node clock) :
    Steady node clock (remember known question keep) := by
  refine ⟨fun {memory} hm => ?_, fun {memory} hm => ?_⟩
  all_goals
    have hr := hq.result hm
    have ha := hq.memory hm
    rw [outcome_remember]
    cases h : known memory with
    | some a => first | exact hm | rw [answer_remember hk, hknown hm h]
    | none =>
      simp only
      rcases hs : outcome node question memory with ⟨failure | a, after⟩
      all_goals rw [hs] at hr ha
      · first | exact ha | rw [answer_remember hk, ← hr]
      · first | exact hkeep ha hr.symm | rw [answer_remember hk, ← hr]

theorem forall_insert {κ : Type} [Ord κ] [Std.TransOrd κ] [Std.LawfulEqOrd κ]
    {map : Std.ExtTreeMap κ α} {P : κ → α → Prop} {k : κ} {a : α} (h : P k a)
    (hmap : ∀ {k a}, map[k]? = some a → P k a) {k' : κ} {a' : α}
    (h' : (map.insert k a)[k']? = some a') : P k' a' := by
  rw [Std.ExtTreeMap.getElem?_insert] at h'
  split at h'
  · next hk =>
    obtain rfl : k = k' := by simpa using hk
    cases h'
    exact h
  · exact hmap h'

end Remember

theorem Steady.header (slot : Slot) : Steady node clock (header slot) :=
  .remember (.ask _) (by simp [Memory.empty]) (fun hm h => answer_ask_eq_ok.2 (hm.headers h))
    fun hm h => { hm with
      headers := forall_insert (P := fun slot answer => node (.header (.slot slot)) = .ok answer)
        (answer_ask_eq_ok.1 h) hm.headers }

theorem Steady.blockAt (slot : Slot) : Steady node clock (blockAt slot) :=
  .remember (.ask _) (by simp [Memory.empty]) (fun hm h => answer_ask_eq_ok.2 (hm.blocksBySlot h))
    fun hm h => { hm with
      blocksBySlot :=
        forall_insert (P := fun slot answer => node (.block (.slot slot)) = .ok answer)
          (answer_ask_eq_ok.1 h) hm.blocksBySlot }

theorem Steady.blockWith (root : Root) : Steady node clock (blockWith root) :=
  .remember (.ask _) (by simp [Memory.empty]) (fun hm h => answer_ask_eq_ok.2 (hm.blocksByRoot h))
    fun hm h => { hm with
      blocksByRoot :=
        forall_insert (P := fun root answer => node (.block (.root root)) = .ok answer)
          (answer_ask_eq_ok.1 h) hm.blocksByRoot }

@[simp] theorem answer_header_eq_ok {slot : Slot} {header? : Option Header} :
    answer node (header slot) = .ok header? ↔ node (.header (.slot slot)) = .ok header? := by
  rw [header, answer_remember (by simp [Memory.empty])]
  exact answer_ask_eq_ok

@[simp] theorem answer_blockAt_eq_ok {slot : Slot} {block? : Option Block} :
    answer node (blockAt slot) = .ok block? ↔ node (.block (.slot slot)) = .ok block? := by
  rw [blockAt, answer_remember (by simp [Memory.empty])]
  exact answer_ask_eq_ok

@[simp] theorem answer_blockWith_eq_ok {root : Root} {block? : Option Block} :
    answer node (blockWith root) = .ok block? ↔ node (.block (.root root)) = .ok block? := by
  rw [blockWith, answer_remember (by simp [Memory.empty])]
  exact answer_ask_eq_ok

section Committees

variable {epoch : Epoch} {table : CommitteeTable}

theorem answer_committees_question_eq_ok :
    answer node (during (.obtainingCommittees (clock.firstSlot epoch)) do
      return .ofList (← ask (.committees (.slot (clock.firstSlot epoch)) (some epoch)))) =
        .ok table ↔ node.HasCommittees clock epoch table := by
  rw [answer_during_eq_ok, (Steady.ask _ : Steady node clock _).bind_eq_ok fun _ => .pure _]
  simp only [answer_pure, Except.ok.injEq]
  exact exists_congr fun _ => and_congr answer_ask_eq_ok eq_comm

theorem Steady.committees : Steady node clock (committees clock epoch) :=
  .remember (.during _ (.bind (.ask _) fun _ => .pure _)) (by simp [Memory.empty])
    (fun hm h => answer_committees_question_eq_ok.2 (hm.committees h))
    fun hm h => { hm with
      committees := forall_insert (P := node.HasCommittees clock)
        (answer_committees_question_eq_ok.1 h) hm.committees }

@[simp] theorem answer_committees_eq_ok :
    answer node (committees clock epoch) = .ok table ↔ node.HasCommittees clock epoch table := by
  rw [committees, answer_remember (by simp [Memory.empty])]
  exact answer_committees_question_eq_ok

end Committees

/-! ## Going through slots -/

variable {σ : Type} {find : σ → Slot → Survey (List α × σ)}

theorem Steady.gatherSlots (h : ∀ state slot, Steady node clock (find state slot)) :
    ∀ (count : Nat) (slot : Slot) (state : σ), Steady node clock (gatherSlots find count slot state)
  | 0, _, _ => .pure _
  | count + 1, slot, state =>
    .bind (h state slot) fun _ => .bind (gatherSlots h count _ _) fun _ => .pure _

end Survey

end BeaconDuties
