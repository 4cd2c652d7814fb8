import BeaconDuties.Text.Table
import BeaconDuties.Text.Pieces
import BeaconDuties.Number.Saturating
import BeaconDuties.Number.Binary64
import BeaconDuties.Number.Places
import BeaconDuties.Number.Shortest
import BeaconDuties.Text.Numeral
import BeaconDuties.Text.Hex
import BeaconDuties.Bytes
import BeaconDuties.Bits
import BeaconDuties.Digest
import BeaconDuties.Text.Quoted
import BeaconDuties.Json.Value
import BeaconDuties.Json.Printer
import BeaconDuties.Json.Reader
import BeaconDuties.Json.Storable
import BeaconDuties.Json.Fields
import BeaconDuties.Chain.Quantity
import BeaconDuties.Chain.Phase
import BeaconDuties.Chain.Spec
import BeaconDuties.Chain.Clock
import BeaconDuties.Block.Attestation
import BeaconDuties.Block.Block
import BeaconDuties.Block.Message
import BeaconDuties.Node.Identifier
import BeaconDuties.Node.Validator
import BeaconDuties.Node.Assignment
import BeaconDuties.Node.Header
import BeaconDuties.Node.Fault
import BeaconDuties.Node.Request
import BeaconDuties.Node.Exchange
import BeaconDuties.Node.Http
import BeaconDuties.Order
import BeaconDuties.Duty.Fault
import BeaconDuties.Duty.Committee
import BeaconDuties.Duty.Vote
import BeaconDuties.Duty.Participation
import BeaconDuties.Duty.Duplicates
import BeaconDuties.Duty.SyncTally
import BeaconDuties.Duty.Weights
import BeaconDuties.Survey.Inquiry
import BeaconDuties.Survey.Failure
import BeaconDuties.Survey.Memory
import BeaconDuties.Survey.Walk
import BeaconDuties.Survey.Chain
import BeaconDuties.Survey.Judgement
import BeaconDuties.Report.Proposal
import BeaconDuties.Report.EpochSummary
import BeaconDuties.Report.EpochSurvey
import BeaconDuties.Report.BlockAnalysis
import BeaconDuties.Report.BlockSurvey
import BeaconDuties.Report.ValidatorSummary
import BeaconDuties.Report.ValidatorSurvey
import BeaconDuties.Report.Text
import BeaconDuties.Text.CombiningClass
import BeaconDuties.Text.Decomposition
import BeaconDuties.Text.Composed
import BeaconDuties.Text.Mark
import BeaconDuties.Domain.Mapping
import BeaconDuties.Domain.Direction
import BeaconDuties.Domain.Joiner
import BeaconDuties.Domain.Punycode
import BeaconDuties.Domain.Name
import BeaconDuties.Command.Percent
import BeaconDuties.Command.Path
import BeaconDuties.Command.Host
import BeaconDuties.Command.Url
import BeaconDuties.Command.EpochSelector
import BeaconDuties.Command.Arguments
import BeaconDuties.Command.Run
import BeaconDuties.Main
import BeaconDuties.Proofs.Lists
import BeaconDuties.Proofs.Maps
import BeaconDuties.Proofs.Order
import BeaconDuties.Proofs.Text.Numeral
import BeaconDuties.Proofs.Text.Hex
import BeaconDuties.Proofs.Bytes
import BeaconDuties.Proofs.Bits
import BeaconDuties.Proofs.Json.Reader
import BeaconDuties.Proofs.Json.Fields
import BeaconDuties.Proofs.Block.Message
import BeaconDuties.Proofs.Chain.Clock
import BeaconDuties.Proofs.Chain.Slots
import BeaconDuties.Proofs.Duty.Committee
import BeaconDuties.Proofs.Duty.Duplicates
import BeaconDuties.Proofs.Duty.Participation
import BeaconDuties.Proofs.Duty.SyncTally
import BeaconDuties.Proofs.Survey.Answer
import BeaconDuties.Proofs.Survey.Walk
import BeaconDuties.Proofs.Survey.Sightings
import BeaconDuties.Proofs.Survey.Requests
import BeaconDuties.Proofs.Survey.Ledger
import BeaconDuties.Proofs.Epoch.Inclusions
import BeaconDuties.Proofs.Epoch.Records
import BeaconDuties.Proofs.Epoch.Exhaustive
import BeaconDuties.Proofs.Epoch.Repeats
import BeaconDuties.Proofs.Epoch.Summary
import BeaconDuties.Proofs.Epoch.Lookups
import BeaconDuties.Proofs.Epoch.Active
import BeaconDuties.Proofs.Block.Lineage
import BeaconDuties.Proofs.Block.Steps
import BeaconDuties.Proofs.Block.Votes
import BeaconDuties.Proofs.Block.Chain
import BeaconDuties.Proofs.Validator.Credits
import BeaconDuties.Proofs.Validator.Summary
import BeaconDuties.Proofs.Validator.Verdicts
import BeaconDuties.Proofs.Agreement.Blocks
import BeaconDuties.Proofs.Agreement.Validators
import BeaconDuties.Proofs.Block.Rows
import BeaconDuties.Proofs.Epoch.Totals
import BeaconDuties.Proofs.Epoch.Restriction
import BeaconDuties.Proofs.Epoch.Horizon
import BeaconDuties.Proofs.Validator.Horizon
import BeaconDuties.Proofs.Agreement.Horizon
import BeaconDuties.Proofs.Survey.Course
import BeaconDuties.Proofs.Survey.Keys
import BeaconDuties.Proofs.Survey.Parts
import BeaconDuties.Proofs.Survey.Keeping
import BeaconDuties.Proofs.Survey.Session
import BeaconDuties.Proofs.Survey.Once
import BeaconDuties.Proofs.Survey.Reordering
import BeaconDuties.Proofs.Report.Parts
import BeaconDuties.Proofs.Command.Faults
import BeaconDuties.Proofs.Report.Once
import BeaconDuties.Proofs.Validator.Totals
import BeaconDuties.Proofs.Report.Reordering
import BeaconDuties.Proofs.Block.Identity
import BeaconDuties.Proofs.Duty.Offsets
import BeaconDuties.Proofs.Json.Likeness
import BeaconDuties.Proofs.Survey.Recall
import BeaconDuties.Proofs.Survey.Descent
import BeaconDuties.Proofs.Block.Likeness
import BeaconDuties.Proofs.Node.Likeness
import BeaconDuties.Proofs.Survey.Ancestry
import BeaconDuties.Proofs.Survey.Judgement
import BeaconDuties.Proofs.Duty.SyncMisses
import BeaconDuties.Proofs.Epoch.SyncDuties
import BeaconDuties.Proofs.Number.Rounding
import BeaconDuties.Proofs.Epoch.SyncChances
import BeaconDuties.Proofs.Chain.Epochs
import BeaconDuties.Proofs.Chain.Times
import BeaconDuties.Proofs.Chain.Faults
import BeaconDuties.Proofs.Survey.Overflow
import BeaconDuties.Proofs.Epoch.Overflow
import BeaconDuties.Proofs.Block.Overflow
import BeaconDuties.Proofs.Report.Overflow
import BeaconDuties.Proofs.Chain.Phases
import BeaconDuties.Proofs.Chain.SyncPeriods
import BeaconDuties.Proofs.Text.Spelling
import BeaconDuties.Proofs.BitFields
import BeaconDuties.Proofs.Chain.Members
import BeaconDuties.Proofs.Node.Identifier
import BeaconDuties.Proofs.Node.Calls
import BeaconDuties.Proofs.Command.EpochSelector
import BeaconDuties.Proofs.Report.Documents
