import BeaconDuties.Number.Places
import BeaconDuties.Report.BlockAnalysis
import BeaconDuties.Report.EpochSummary
import BeaconDuties.Report.ValidatorSummary

/-!
Reports as text for people.

A report is a list of lines (`EpochSummary.lines?`, `BlockAnalysis.lines`,
`ValidatorSummary.lines`). Each report has a short and a verbose form. Shares are written in
percent with two decimal places (`Text.percent`), scores and values with three.
-/

namespace BeaconDuties

namespace Text

/-- A text of lines, each with a line break at its end. -/
def unlines (lines : List String) : String := String.join (lines.map (· ++ "\n"))

/-- How many percent of the whole a part is, or zero if the whole is nothing. -/
def percentage (part whole : Nat) : Binary64 :=
  if whole = 0 then .zero
  else ((Binary64.ofNat 100).mul (.ofNat part)).div (.ofNat whole)

/-- How many percent of the whole a part is, with two decimal places. -/
def percent (part whole : Nat) : String := Places.render 2 (percentage part whole)

/-- A mark for whether something is there. -/
def mark (present : Bool) : String := if present then "✓" else "✕"

end Text

open Text

namespace EpochSummary

/-- The lines on who meets a criterion. -/
def outcomeLine (active : Nat) (label : String) (outcome : Outcome) : String :=
  let count := outcome.met.validators
  let share := "(" ++ percent count active ++ "%)"
  s!"    {label}: {count}/{active} {share}"

/-- The lines on attestations. -/
def attestationLines (x : EpochSummary) : List String :=
  let line := outcomeLine x.active.validators
  ["  Attestations:", line "Participating" x.participating, line "Correct head" x.headCorrect,
    line "Timely head" x.headTimely, line "Timely source" x.sourceTimely,
    line "Correct target" x.targetCorrect, line "Timely target" x.targetTimely]

/-- The lines on a proposal, in the verbose form. `count` is the number of slots. -/
def proposalLines (first : Slot) (count : UInt64) (proposal : Proposal) : List String :=
  let number := satSub proposal.slot first
  [s!"  Slot {proposal.slot} ({number}/{count}):",
    s!"    Proposer: {proposal.validator}",
    "    Proposed: " ++ mark proposal.proposed]

/-- The lines on proposals of which there is no block, in the short form. -/
def missedProposalLines (proposals : List Proposal) : List String :=
  let missed := proposals.filter (!·.proposed)
  if missed.isEmpty then []
  else "  Missed proposals:" :: missed.map fun proposal =>
    s!"    Slot {proposal.slot} (validator {proposal.validator})"

/-- The lines on a member of the sync committee, in the verbose form. Every block is a chance to
    sign. -/
def syncLines (chances : Nat) (misses : SyncMisses) : List String :=
  let included := chances - misses.missed
  [s!"  Sync committee validator {misses.validator}:",
    s!"    Chances: {chances}",
    s!"    Included: {included}",
    "    Inclusion %: " ++ percent included chances]

/-- The lines on members of the sync committee, in the short form. -/
def missedSyncLines (chances : Nat) (missed : List SyncMisses) : List String :=
  if missed.isEmpty then []
  else "  Missed sync committees (excluding missed blocks):" :: missed.map fun misses =>
    let share := "(" ++ percent misses.missed chances ++ "%)"
    s!"    {misses.missed} {share} by validator {misses.validator}"

/-- The heading of a summary. -/
def heading (epoch : Epoch) : String := s!"Epoch {epoch}:"

/-- The short form of a summary. -/
def lines (x : EpochSummary) : List String :=
  heading x.epoch :: missedProposalLines x.proposals ++ attestationLines x
    ++ missedSyncLines x.blocks x.syncMisses

/-- The number of slots, unless it does not fit in 64 bits. -/
def slotCount? (x : EpochSummary) : Option UInt64 :=
  checkedSum [satSub x.slots.last x.slots.first, 1]

/-- The verbose form of a summary. It tells the number of slots, which must fit. -/
def verboseLines? (x : EpochSummary) : Option (List String) := do
  let count ← x.slotCount?
  return heading x.epoch :: x.proposals.flatMap (proposalLines x.slots.first count)
    ++ attestationLines x ++ x.syncMisses.flatMap (syncLines x.blocks)

/-- The lines of a summary. -/
def lines? (x : EpochSummary) (verbose : Bool) : Option (List String) :=
  if verbose then x.verboseLines? else some x.lines

end EpochSummary

namespace BlockAnalysis

/-- What is said of the flags of an attestation that earns less than it could. -/
def flagRemarks (flags : VoteFlags) : List String :=
  (if !flags.headCorrect then ["head vote incorrect"]
    else if !flags.headTimely then ["head vote correct but late"] else [])
  ++ (if !flags.sourceTimely then ["source vote late"] else [])
  ++ (if !flags.targetCorrect then ["target vote incorrect"]
    else if !flags.targetTimely then ["target vote correct but late"] else [])

/-- What is said of an attestation after its distance. -/
def remarks (x : AttestationAnalysis) : List String :=
  match x.duplicate with
  | some origin => [s!"duplicate of attestation {origin.index} in block {origin.block}"]
  | none =>
    let votes := s!"{x.newVotes}/{x.votes}/{x.possibleVotes} new/total/possible votes"
    if x.newVotes = 0 then [votes]
    else votes :: flagRemarks x.flags
      ++ ["score " ++ Places.render 3 x.score, "value " ++ Places.render 3 x.value]

/-- The line on an attestation. -/
def attestationLine (x : AttestationAnalysis) (index : Nat) : String :=
  String.intercalate ", " (s!"Attestation {index}: distance {x.distance}" :: remarks x)

/-- The line on a sync aggregate, if anyone signed. -/
def syncLines (x : SyncAnalysis) : List String :=
  if x.contributions = 0 then []
  else
    [String.intercalate ", " [s!"Sync committee contributions: {x.contributions} contributions",
      "score " ++ Places.render 3 x.score, "value " ++ Places.render 3 x.value]]

/-- The lines of an analysis. -/
def lines (x : BlockAnalysis) (verbose : Bool) : List String :=
  let details :=
    if verbose then
      (x.attestations.zipIdx.map fun (row, index) => attestationLine row index)
        ++ syncLines x.sync
    else []
  details ++ [s!"Value for block {x.slot}: " ++ Places.render 3 x.value]

end BlockAnalysis

namespace ValidatorSummary

/-- The line on the duties of a slot. -/
def slotLine (x : SlotDuties) : String :=
  String.intercalate ", " [s!"  Slot {x.slot}: {x.included}/{x.expected} included",
    s!"{x.correctHead} correct head", s!"{x.timelyHead} timely head",
    s!"{x.timelySource} timely source", s!"{x.correctTarget} correct target",
    s!"{x.timelyTarget} timely target"]

/-- The line on a proposal. -/
def proposalLine (x : Proposal) : String :=
  s!"  Proposal at slot {x.slot} by validator {x.validator}: " ++ mark x.proposed

/-- The start of a line on a validator in its seat. -/
def seatText (seat : Seat) : String :=
  s!"    {seat.validator} (slot {seat.slot}, committee {seat.committee}"

/-- The lines on duties that are not fulfilled. -/
def missedLines (missed : List Seat) : List String :=
  if missed.isEmpty then []
  else "  Non-participating validators:" :: missed.map fun seat => seatText seat ++ ")"

/-- The lines on votes that were wrong. -/
def wrongLines (label : String) (faults : List VoteFault) : List String :=
  if faults.isEmpty then []
  else s!"  {label} validators:" :: faults.map fun fault => seatText fault.seat ++ ")"

/-- The lines on votes that were late. -/
def lateLines (label : String) (faults : List VoteFault) : List String :=
  if faults.isEmpty then []
  else s!"  {label} validators:" :: faults.map fun fault =>
    seatText fault.seat ++ s!", inclusion distance {fault.delay})"

/-- The lines of a summary. -/
def lines (x : ValidatorSummary) (verbose : Bool) : List String :=
  EpochSummary.heading x.epoch :: x.slots.map slotLine
    ++ (if verbose then x.proposals.map proposalLine else [])
    ++ missedLines x.nonParticipating
    ++ wrongLines "Incorrect head" x.incorrectHead
    ++ lateLines "Untimely head" x.untimelyHead
    ++ lateLines "Untimely source" x.untimelySource
    ++ wrongLines "Incorrect target" x.incorrectTarget
    ++ lateLines "Untimely target" x.untimelyTarget

end ValidatorSummary

end BeaconDuties
