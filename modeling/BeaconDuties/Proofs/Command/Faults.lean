import BeaconDuties.Command.Run
import BeaconDuties.Proofs.Report.Parts
import BeaconDuties.Proofs.Survey.Ledger

/-!
No fault of a node is passed over.

All surveys that commands are made of heed faults, because their parts do (`Survey.Composed.heeds`),
and so does every command (`Command.heeds_run`). A fault ends the run, is told of, and leaves nothing printed; a
report is printed only if there have been no faults (`Command.heeded_of_course`).
-/

namespace BeaconDuties

open Survey

variable {limits : Limits} {chain : Chain} {available : List Capability}

theorem BlockSurvey.heeds_run {id : BlockId} : Heeds (run limits chain available id) := by
  refine .bind (Composed.require (P := fun _ => True)).heeds fun _ =>
    .bind (.during .ask) fun block? => ?_
  cases block? with
  | none => exact .throw nofun
  | some block => exact composed_analyze.heeds

theorem OutputOptions.heeds_print {options : OutputOptions} {json : Json}
    {lines? : Bool → Option (List String)} : Heeds (options.print json lines?) :=
  Composed.heeds (P := fun _ => True)
    (.ite (.pure _) (.ite (.pure _) (.bind (.total trivial) fun _ => .pure _)))

namespace Command

variable {output : OutputOptions} {time : Nat} {command : Command}

theorem heeds_run : Heeds (command.run available limits output time) := by
  refine .bind (.during Chain.composed_load.heeds) fun chain => ?_
  cases command with
  | epochSummary epoch validators =>
    exact .bind EpochSurvey.composed_run.heeds fun _ => OutputOptions.heeds_print
  | blockAnalyze id =>
    exact .bind BlockSurvey.heeds_run fun _ => OutputOptions.heeds_print
  | validatorSummary epoch validators =>
    exact .bind ValidatorSurvey.composed_run.heeds fun _ => OutputOptions.heeds_print

theorem printed_of_tellsOf {fault : NodeFault} {result : Except Failure String}
    (h : TellsOf fault result) : printed result = "" := by
  obtain ⟨activities, rfl⟩ := h
  rfl

/-- **No fault is passed over.** Whatever a node answers in the course of a command, the first fault
    is the last answer: the command fails, tells of this very fault, and prints nothing. So there is
    a report only if the node has answered every request. That there is no block or header is an
    answer too, and never becomes a fault. -/
theorem heeded_of_course {turns : List Turn} {result : Except Failure String}
    (h : (command.run available limits output time).inquiry.Course turns result) :
    (∀ before turn after fault, turns = before ++ turn :: after → turn.answer = .error fault →
      after = [] ∧ TellsOf fault result ∧ printed result = "") ∧
    (∀ report, result = .ok report → ∀ turn ∈ turns, ∃ reply, turn.answer = .ok reply) ∧
    ∀ fault, TellsOf fault result →
      fault.IsForeseen ∨ ∃ turn ∈ turns, turn.answer = .error fault := by
  refine ⟨?_, ?_, ?_⟩
  · intro before turn after fault ht hfault
    obtain ⟨hlast, htells⟩ := heeds_run.last h ht hfault
    exact ⟨hlast, htells, printed_of_tellsOf htells⟩
  · rintro report rfl turn ht
    exact heeds_run.exists_reply h ht
  · intro fault htells
    exact heeds_run.exists_fault h htells

/-- A node of the small chain that has lost the first block, and that cannot be reached any more
    when it is asked for a header. -/
def forgetfulNode : Answers
  | .genesis => .ok ⟨0, .zero 32, .zero 4⟩
  | .spec => .ok (.ofList [("SECONDS_PER_SLOT", .duration 1000), ("SLOTS_PER_EPOCH", .number 2)])
  | .forkSchedule => .ok []
  | .block (.slot 0) => .ok none
  | .header _ => .error .network
  | request => Ledger.devnet.answers request

/-- The missing block is passed over, and the missing header is told of. -/
theorem heeded_of_course_devnet :
    ∃ before turn result,
      ((validatorSummary (.absolute 0) [.index 0]).run Capability.all .usual
        ⟨true, false, false, false⟩ 3000000000).inquiry.Course (before ++ [turn]) result ∧
      ⟨.block (.slot 0), .ok none⟩ ∈ before ∧ turn.answer = .error .network ∧
      TellsOf .network result ∧ printed result = "" := by
  let survey := (validatorSummary (.absolute 0) [.index 0]).run Capability.all .usual
    ⟨true, false, false, false⟩ 3000000000
  let asked : List Request := [.genesis, .spec, .forkSchedule,
    .validators (.slot 0) [.index 0], .proposers 0, .block (.slot 0), .attesters 0 [0],
    .committees (.slot 0) (some 0), .block (.slot 1)]
  let before : List Turn := asked.map fun request => ⟨request, forgetfulNode request⟩
  have hrequests : (survey.inquiry.run forgetfulNode).2 = asked ++ [.header (.slot 0)] := by
    decide +kernel
  have hcourse := Inquiry.course_run forgetfulNode survey.inquiry
  rw [hrequests, List.map_append] at hcourse
  have hmissing : ⟨.block (.slot 0), .ok none⟩ ∈ before :=
    List.mem_map.2 ⟨.block (.slot 0), by decide, rfl⟩
  obtain ⟨-, htells, hprinted⟩ := (heeded_of_course hcourse).1 before
    ⟨.header (.slot 0), .error .network⟩ [] .network rfl rfl
  exact ⟨before, _, _, hcourse, hmissing, rfl, htells, hprinted⟩

end Command

end BeaconDuties
