import BeaconDuties.Command.Arguments
import BeaconDuties.Json.Printer
import BeaconDuties.Report.BlockSurvey
import BeaconDuties.Report.EpochSurvey
import BeaconDuties.Report.Text
import BeaconDuties.Report.ValidatorSurvey

/-!
Running a command: from what is asked to what is printed.

The parameters of the chain are loaded first, as they tell which epoch is the current one. The
report is printed only when all of it is known (`Command.run`, `Command.printed`).
-/

namespace BeaconDuties

/-- The text of a report as JSON, on a line of its own. -/
def Json.renderLine (report : Json) : String := report.render ++ "\n"

namespace OutputOptions

/-- What is printed of a report, given its forms as JSON and as text. -/
def print (options : OutputOptions) (json : Json) (lines? : Bool → Option (List String)) :
    Survey String := do
  if options.quiet then return ""
  else if options.json then return json.renderLine
  else return Text.unlines (← Survey.total (lines? options.verbose))

end OutputOptions

namespace Command

/-- Runs a command at a time, in nanoseconds since the start of 1970. The result is what is
    printed. -/
def run (available : List Capability) (limits : Limits) (output : OutputOptions) (time : Nat)
    (command : Command) : Survey String := do
  let chain ← Survey.during .loadingChain (Chain.load available)
  let current := chain.clock.slotAt time
  let currentEpoch := chain.clock.epochAt time
  match command with
  | epochSummary epoch validators =>
    let query : EpochSurvey.Query := ⟨epoch.resolve currentEpoch, validators, current⟩
    let summary ← EpochSurvey.run available limits chain query
    output.print summary.toJson summary.lines?
  | blockAnalyze id =>
    let analysis ← BlockSurvey.run limits chain available id
    output.print analysis.toJson fun verbose => some (analysis.lines verbose)
  | validatorSummary epoch validators =>
    let query : ValidatorSurvey.Query := ⟨epoch.resolve currentEpoch, validators, current⟩
    let summary ← ValidatorSurvey.run available limits chain query
    output.print summary.toJson fun verbose => some (summary.lines verbose)

/-- What is printed in the end: the report, or nothing if there is none. -/
def printed : Except Failure String → String
  | .ok report => report
  | .error _ => ""

end Command

end BeaconDuties
