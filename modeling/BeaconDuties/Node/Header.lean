import BeaconDuties.Chain.Clock
import BeaconDuties.Json.Fields

/-!
Where a chain starts, which forks it has, and the headers of its blocks, as JSON messages.

A header has two messages: its own (`Header.toJson`, `Header.ofJson?`), and the one in which a node
answers, where slot and parent lie deeper (`Header.ofReply?`).
-/

namespace BeaconDuties

open Json

/-- Where a chain starts. -/
structure Genesis where
  /-- When slot 0 starts, in seconds since the start of 1970. -/
  time : UInt64
  validatorsRoot : Root
  forkVersion : Version
deriving DecidableEq

/-- Reads where a chain starts. -/
def Genesis.ofJson? (value : Json) : Option Genesis := do
  let fields ← value.fields? ["genesis_time", "genesis_validators_root", "genesis_fork_version"]
  return {
    time := ← fields.read? "genesis_time" uint64?
    validatorsRoot := ← fields.read? "genesis_validators_root" (bytes? 32)
    forkVersion := ← fields.read? "genesis_fork_version" (bytes? 4) }

namespace Fork

/-- Writes a fork. -/
def toJson (x : Fork) : Json :=
  record [("previous_version", bytes x.previous), ("current_version", bytes x.current),
    ("epoch", quantity x.epoch)]

/-- Reads a fork. -/
def ofJson? (value : Json) : Option Fork := do
  let fields ← value.fields? ["previous_version", "current_version", "epoch"]
  return {
    previous := ← fields.read? "previous_version" (bytes? 4)
    current := ← fields.read? "current_version" (bytes? 4)
    epoch := ← fields.read? "epoch" uint64? }

end Fork

/-- What a block is known by. -/
structure Header where
  slot : Slot
  root : Root
  parent : Root
  /-- Whether the block is on the chain of the newest block. -/
  canonical : Bool
deriving DecidableEq

namespace Header

/-- Writes a header. -/
def toJson (x : Header) : Json :=
  record [("slot", quantity x.slot), ("root", bytes x.root), ("parent_root", bytes x.parent),
    ("canonical", bool x.canonical)]

/-- Reads a header. -/
def ofJson? (value : Json) : Option Header := do
  let fields ← value.fields? ["slot", "root", "parent_root", "canonical"]
  return {
    slot := ← fields.read? "slot" uint64?
    root := ← fields.read? "root" (bytes? 32)
    parent := ← fields.read? "parent_root" (bytes? 32)
    canonical := ← fields.read? "canonical" bool? }

/-- Reads a header from a node's answer. -/
def ofReply? (value : Json) : Option Header := do
  let fields ← value.fields? ["root", "canonical", "header"]
  let signed ← (← fields.get? "header").fields? ["message"]
  let message ← (← signed.get? "message").fields? ["slot", "parent_root"]
  return {
    slot := ← message.read? "slot" uint64?
    root := ← fields.read? "root" (bytes? 32)
    parent := ← message.read? "parent_root" (bytes? 32)
    canonical := ← fields.read? "canonical" bool? }

end Header

end BeaconDuties
