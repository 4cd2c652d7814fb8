import BeaconDuties.Chain.Quantity
import BeaconDuties.Json.Fields

/-!
Validators as a node lists them, and their JSON messages.
-/

namespace BeaconDuties

open Json

/-- Where a validator stands between its deposit and its last withdrawal. -/
inductive ValidatorStatus where
  | pendingInitialized
  | pendingQueued
  | activeOngoing
  | activeExiting
  | activeSlashed
  | exitedUnslashed
  | exitedSlashed
  | withdrawalPossible
  | withdrawalDone
deriving DecidableEq, Repr

namespace ValidatorStatus

/-- All of them. -/
def all : List ValidatorStatus :=
  [pendingInitialized, pendingQueued, activeOngoing, activeExiting, activeSlashed, exitedUnslashed,
    exitedSlashed, withdrawalPossible, withdrawalDone]

/-- The name of a status. -/
def name : ValidatorStatus → String
  | pendingInitialized => "pending_initialized"
  | pendingQueued => "pending_queued"
  | activeOngoing => "active_ongoing"
  | activeExiting => "active_exiting"
  | activeSlashed => "active_slashed"
  | exitedUnslashed => "exited_unslashed"
  | exitedSlashed => "exited_slashed"
  | withdrawalPossible => "withdrawal_possible"
  | withdrawalDone => "withdrawal_done"

/-- The status of a name. -/
def read? (text : String) : Option ValidatorStatus := all.find? (·.name == text)

end ValidatorStatus

/-- What the registry of the chain says about a validator. -/
structure Validator where
  publicKey : PublicKey
  withdrawalCredentials : Root
  /-- The balance that counts for duties and rewards. -/
  effectiveBalance : Gwei
  slashed : Bool
  activationEligibility : Epoch
  /-- The first epoch in which it has duties. -/
  activation : Epoch
  /-- The first epoch in which it has no duties any more. -/
  exit : Epoch
  withdrawable : Epoch
deriving DecidableEq

namespace Validator

/-- Writes an entry of the registry. -/
def toJson (x : Validator) : Json :=
  record [("pubkey", bytes x.publicKey), ("withdrawal_credentials", bytes x.withdrawalCredentials),
    ("effective_balance", quantity x.effectiveBalance), ("slashed", bool x.slashed),
    ("activation_eligibility_epoch", quantity x.activationEligibility),
    ("activation_epoch", quantity x.activation), ("exit_epoch", quantity x.exit),
    ("withdrawable_epoch", quantity x.withdrawable)]

/-- Reads an entry of the registry. -/
def ofJson? (value : Json) : Option Validator := do
  let fields ← value.fields? ["pubkey", "withdrawal_credentials", "effective_balance", "slashed",
    "activation_eligibility_epoch", "activation_epoch", "exit_epoch", "withdrawable_epoch"]
  return {
    publicKey := ← fields.read? "pubkey" (bytes? 48)
    withdrawalCredentials := ← fields.read? "withdrawal_credentials" (bytes? 32)
    effectiveBalance := ← fields.read? "effective_balance" uint64?
    slashed := ← fields.read? "slashed" bool?
    activationEligibility := ← fields.read? "activation_eligibility_epoch" uint64?
    activation := ← fields.read? "activation_epoch" uint64?
    exit := ← fields.read? "exit_epoch" uint64?
    withdrawable := ← fields.read? "withdrawable_epoch" uint64? }

end Validator

/-- A validator in some state of the chain. -/
structure ValidatorInfo where
  index : ValidatorIndex
  balance : Gwei
  status : ValidatorStatus
  validator : Validator
deriving DecidableEq

namespace ValidatorInfo

/-- Whether the validator has duties in an epoch. -/
def isActiveIn (x : ValidatorInfo) (epoch : Epoch) : Bool :=
  x.validator.activation ≤ epoch && epoch < x.validator.exit

/-- The balance that counts for duties and rewards. -/
def effectiveBalance (x : ValidatorInfo) : Gwei := x.validator.effectiveBalance

/-- Writes a validator. -/
def toJson (x : ValidatorInfo) : Json :=
  record [("index", quantity x.index), ("balance", quantity x.balance),
    ("status", text x.status.name), ("validator", x.validator.toJson)]

/-- Reads a validator. -/
def ofJson? (value : Json) : Option ValidatorInfo := do
  let fields ← value.fields? ["index", "balance", "status", "validator"]
  return {
    index := ← fields.read? "index" uint64?
    balance := ← fields.read? "balance" uint64?
    status := ← fields.read? "status" fun value => do ValidatorStatus.read? (← value.text?)
    validator := ← fields.read? "validator" Validator.ofJson? }

end ValidatorInfo

end BeaconDuties
