import BeaconDuties.Proofs.Survey.Parts

/-!
Surveys that fail because a total does not fit.

Of all failures, `Failure.overflow` is the one that says nothing about the node. A survey
`Survey.Fits` if it never fails in this way, whatever the node answers and whenever. All parts that
surveys are composed of fit, but for totals (`Survey.overflows_total_iff`), and so does what is
composed of other parts only (`Survey.Fits.of_composed`). In a sequence the first
total that does not fit ends the survey (`Survey.overflows_bind_iff`). So a survey that gathers all
it needs before it adds up fails in this way exactly if it has gathered everything and the total
does not fit (`Survey.Fits.course_total_iff`).

`Survey.Ensures` says that something holds of all that a survey comes to.
-/

namespace BeaconDuties

variable {α β : Type}

namespace Inquiry

theorem bind_done : ∀ inquiry : Inquiry α, inquiry.bind done = inquiry
  | done _ => rfl
  | ask _ next => congrArg (ask _) (funext fun answer => bind_done (next answer))

theorem bind_bind {γ : Type} {f : α → Inquiry β} {g : β → Inquiry γ} : ∀ inquiry : Inquiry α,
    (inquiry.bind f).bind g = inquiry.bind fun a => (f a).bind g
  | done _ => rfl
  | ask _ next => congrArg (ask _) (funext fun answer => bind_bind (next answer))

instance : LawfulMonad Inquiry := .mk' Inquiry bind_done (fun _ _ => rfl) fun x _ _ => bind_bind x

end Inquiry

namespace Survey

variable {survey : Survey α} {f : α → Survey β} {memory : Memory} {turns : List Turn}

/-- In this course a survey fails because a total does not fit. -/
def Overflows (survey : Survey α) (memory : Memory) (turns : List Turn) : Prop :=
  ∃ after, (survey.resume memory).Course turns (.error .overflow, after)

theorem overflows_inquiry_iff :
    survey.inquiry.Course turns (.error .overflow) ↔ Overflows survey .empty turns :=
  course_inquiry

/-- A sequence overflows with its first part, or after it. -/
theorem overflows_bind_iff :
    Overflows (survey >>= f) memory turns ↔ Overflows survey memory turns ∨
      ∃ first rest a between, (survey.resume memory).Course first (.ok a, between) ∧
        Overflows (f a) between rest ∧ turns = first ++ rest := by
  constructor
  · rintro ⟨after, h⟩
    obtain ⟨failure, h, hfailure⟩ | ⟨first, rest, a, between, hfirst, hrest, rfl⟩ := course_bind.1 h
    · cases hfailure
      exact .inl ⟨after, h⟩
    · exact .inr ⟨first, rest, a, between, hfirst, ⟨after, hrest⟩, rfl⟩
  · rintro (⟨after, h⟩ | ⟨first, rest, a, between, hfirst, ⟨after, hrest⟩, rfl⟩)
    · exact ⟨after, course_bind.2 (.inl ⟨_, h, rfl⟩)⟩
    · exact ⟨after, course_bind.2 (.inr ⟨first, rest, a, between, hfirst, hrest, rfl⟩)⟩

theorem overflows_bind_congr {γ : Type} {g : α → Survey γ}
    (h : ∀ a between rest, Overflows (f a) between rest ↔ Overflows (g a) between rest) :
    Overflows (survey >>= f) memory turns ↔ Overflows (survey >>= g) memory turns := by
  simp only [overflows_bind_iff, h]

theorem overflows_total_iff {sum : Option α} :
    Overflows (total sum) memory turns ↔ turns = [] ∧ sum = none := by
  cases sum with
  | none =>
    refine ⟨fun ⟨after, h⟩ => ⟨(course_throw.1 h).1, rfl⟩, ?_⟩
    rintro ⟨rfl, -⟩
    exact ⟨memory, course_throw.2 ⟨rfl, rfl, rfl⟩⟩
  | some a =>
    refine ⟨fun ⟨after, h⟩ => ?_, fun h => nomatch h.2⟩
    cases (course_pure.1 h).2.1

/-- A survey that comes to something whose total fits goes on to the total without a request. -/
theorem course_total_ok {sum : α → Option β} {a : α} {b : β}
    (h : survey.inquiry.Course turns (.ok a)) (hsum : sum a = some b) :
    (survey >>= fun a => total (sum a)).inquiry.Course turns (.ok b) := by
  obtain ⟨after, h⟩ := course_inquiry.1 h
  refine course_inquiry.2 ⟨after, course_bind_ok.2 ?_⟩
  refine ⟨turns, [], a, after, h, ?_, (List.append_nil _).symm⟩
  rw [hsum]
  exact course_pure.2 ⟨rfl, rfl, rfl⟩

/-! ## Surveys that fit -/

/-- A survey never fails because a total does not fit. -/
structure Fits (survey : Survey α) : Prop where
  fits : ∀ memory turns, ¬ Overflows survey memory turns

namespace Fits

theorem pure (a : α) : Fits (pure a : Survey α) :=
  ⟨fun _ _ ⟨_, h⟩ => nomatch (course_pure.1 h).2.1⟩

theorem throw {failure : Failure} (h : failure ≠ .overflow) : Fits (throw failure : Survey α) :=
  ⟨fun _ _ ⟨_, hc⟩ => h (Except.error.inj (course_throw.1 hc).2.1).symm⟩

theorem ask {request : Request} : Fits (ask request) := by
  refine ⟨fun _ _ ⟨_, h⟩ => ?_⟩
  obtain ⟨-, answer, -, h⟩ := course_ask.1 h
  cases answer <;> cases h

theorem lookUp {lookUp : LookUp} : Fits lookUp.survey := by
  refine ⟨fun memory _ ⟨_, h⟩ => ?_⟩
  cases hkey : memory.get? lookUp.key with
  | some answer => cases ((LookUp.course_known hkey).1 h).2.1
  | none => obtain ⟨_, -, h, -⟩ | ⟨_, -, h, -⟩ := (LookUp.course_unknown hkey).1 h <;> cases h

theorem during {activity : Activity} (h : Fits survey) : Fits (during activity survey) := by
  refine ⟨fun memory turns ⟨after, hc⟩ => h.fits memory turns ⟨after, ?_⟩⟩
  obtain ⟨inner, hinner, hresult⟩ := course_during.1 hc
  -- to say what is being done makes no other failure an overflow
  obtain rfl : inner = .error .overflow := by
    rcases inner with (_ | _) | _
    · rfl
    · cases hresult
    · cases hresult
  exact hinner

/-- If the first part of a sequence fits, the sequence overflows after it. -/
theorem overflows_bind_iff (h : Fits survey) :
    Overflows (survey >>= f) memory turns ↔
      ∃ first rest a between, (survey.resume memory).Course first (.ok a, between) ∧
        Overflows (f a) between rest ∧ turns = first ++ rest :=
  Survey.overflows_bind_iff.trans (or_iff_right (h.fits memory turns))

/-- If what follows fits, a sequence overflows with its first part. -/
theorem overflows_bind_iff_left (hf : ∀ a, Fits (f a)) :
    Overflows (survey >>= f) memory turns ↔ Overflows survey memory turns := by
  refine Survey.overflows_bind_iff.trans (or_iff_left ?_)
  rintro ⟨_, rest, a, between, -, h, -⟩
  exact (hf a).fits between rest h

theorem bind (h : Fits survey) (hf : ∀ a, Fits (f a)) : Fits (survey >>= f) :=
  ⟨fun memory turns ho => h.fits memory turns ((overflows_bind_iff_left hf).1 ho)⟩

/-- A total that follows a survey that fits overflows if the survey comes to something whose total
    does not fit. -/
theorem overflows_total_iff {sum : α → Option β} (h : Fits survey) :
    Overflows (survey >>= fun a => total (sum a)) memory turns ↔
      ∃ a after, (survey.resume memory).Course turns (.ok a, after) ∧ sum a = none := by
  rw [h.overflows_bind_iff]
  simp only [Survey.overflows_total_iff]
  constructor
  · rintro ⟨first, rest, a, between, hfirst, ⟨rfl, hsum⟩, rfl⟩
    rw [List.append_nil]
    exact ⟨a, between, hfirst, hsum⟩
  · rintro ⟨a, after, hfirst, hsum⟩
    exact ⟨turns, [], a, after, hfirst, ⟨rfl, hsum⟩, (List.append_nil _).symm⟩

/-- A survey that adds up in the end fails because of this exactly if it has come so far. -/
theorem course_total_iff {sum : α → Option β} (h : Fits survey) :
    (survey >>= fun a => total (sum a)).inquiry.Course turns (.error .overflow) ↔
      ∃ a, survey.inquiry.Course turns (.ok a) ∧ sum a = none := by
  rw [overflows_inquiry_iff, h.overflows_total_iff]
  refine exists_congr fun a => ?_
  rw [course_inquiry, exists_and_right]

theorem not_course (h : Fits survey) : ¬ survey.inquiry.Course turns (.error .overflow) := by
  rw [overflows_inquiry_iff]
  exact h.fits .empty turns

/-- A survey without totals fits. -/
theorem of_composed {P : Request → Prop} (h : Composed P False survey) : Fits survey := by
  induction h with
  | pure a => exact .pure a
  | throw _ htotal => exact .throw fun h => htotal h
  | ask => exact .ask
  | lookUp => exact .lookUp
  | during _ ih => exact .during ih
  | bind _ _ ih ihf => exact .bind ih ihf

end Fits

/-! ## What a survey comes to -/

/-- Something holds of all that a survey comes to. -/
structure Ensures (Q : α → Prop) (survey : Survey α) : Prop where
  ensures : ∀ {memory after : Memory} {turns : List Turn} {a : α},
    (survey.resume memory).Course turns (.ok a, after) → Q a

namespace Ensures

variable {Q : α → Prop} {R : β → Prop}

theorem pure {a : α} (h : Q a) : Ensures Q (pure a : Survey α) := by
  refine ⟨fun hc => ?_⟩
  cases (course_pure.1 hc).2.1
  exact h

theorem fail {cause : Cause} : Ensures Q (fail cause : Survey α) :=
  ⟨fun hc => nomatch (course_throw.1 hc).2.1⟩

theorem total {sum : Option α} (h : ∀ a, sum = some a → Q a) : Ensures Q (total sum) := by
  cases sum with
  | some a => exact .pure (h a rfl)
  | none => exact ⟨fun hc => nomatch (course_throw.1 hc).2.1⟩

/-- What follows a survey need only deal with what the survey comes to. -/
theorem bind (h : Ensures Q survey) (hf : ∀ a, Q a → Ensures R (f a)) :
    Ensures R (survey >>= f) := by
  refine ⟨fun hc => ?_⟩
  obtain ⟨_, _, a, _, hfirst, hrest, -⟩ := course_bind_ok.1 hc
  exact (hf a (h.ensures hfirst)).ensures hrest

theorem next (hf : ∀ a, Ensures R (f a)) : Ensures R (survey >>= f) :=
  bind ⟨fun _ => trivial⟩ fun a (_ : True) => hf a

theorem of_course {a : α} (h : Ensures Q survey) (hc : survey.inquiry.Course turns (.ok a)) :
    Q a := by
  obtain ⟨after, hc⟩ := course_inquiry.1 hc
  exact h.ensures hc

end Ensures

end Survey

end BeaconDuties
