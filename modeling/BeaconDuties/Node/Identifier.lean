import BeaconDuties.Bytes
import BeaconDuties.Chain.Quantity
import BeaconDuties.Text.Numeral
import BeaconDuties.Text.Quoted

/-!
How blocks, states and validators are named.

* A `BlockId` is a word, a slot or a root; a `StateId` has one word more.
* A `ValidatorId` is an index in the registry or a public key.

Each has a text (`render`) that is read again (`read?`, `ValidatorId.read`). A text that could be
several things is, in this order, a word, a slot, a root.
-/

namespace BeaconDuties

/-- Names a block. -/
inductive BlockId where
  /-- The newest block. -/
  | head
  /-- The first block. -/
  | genesis
  /-- The newest block that is final. -/
  | finalized
  /-- The block of a slot on the chain of the newest block. -/
  | slot (slot : Slot)
  /-- The block with a root, on whatever chain. -/
  | root (root : Root)
deriving DecidableEq

namespace BlockId

/-- The text of a block's name. -/
def render : BlockId → String
  | head => "head"
  | genesis => "genesis"
  | finalized => "finalized"
  | slot n => Numeral.renderUInt64 n
  | root x => x.render

/-- Reads a block's name. -/
def read? (text : String) : Option BlockId :=
  if text = "head" then some head
  else if text = "genesis" then some genesis
  else if text = "finalized" then some finalized
  else
    match Numeral.read? text with
    | some n => some (slot n)
    | none => (FixedBytes.read? 32 text).map root

end BlockId

/-- Names a state by the block after which the chain is in it. -/
inductive StateId where
  | head
  | genesis
  | finalized
  /-- The state of the newest block that is justified. -/
  | justified
  | slot (slot : Slot)
  | root (root : Root)
deriving DecidableEq

namespace StateId

/-- The text of a state's name. -/
def render : StateId → String
  | head => "head"
  | genesis => "genesis"
  | finalized => "finalized"
  | justified => "justified"
  | slot n => Numeral.renderUInt64 n
  | root x => x.render

/-- Reads a state's name. -/
def read? (text : String) : Option StateId :=
  if text = "head" then some head
  else if text = "genesis" then some genesis
  else if text = "finalized" then some finalized
  else if text = "justified" then some justified
  else
    match Numeral.read? text with
    | some n => some (slot n)
    | none => (FixedBytes.read? 32 text).map root

end StateId

/-- Names a validator. -/
inductive ValidatorId where
  | index (index : ValidatorIndex)
  | publicKey (key : PublicKey)
deriving DecidableEq

namespace ValidatorId

/-- The text of a validator's name. -/
def render : ValidatorId → String
  | index n => Numeral.renderUInt64 n
  | publicKey key => key.render

/-- Reads a validator's name. After `0x` there must be a public key and nothing else. -/
def read? (text : String) : Option ValidatorId :=
  match Hex.stripPrefix? text.toList with
  | some digits => do
    let bytes ← (Hex.decode digits).toOption
    return publicKey (← FixedBytes.ofList? 48 bytes)
  | none => (Numeral.read? text).map index

/-- The message for a text that names no validator. -/
def invalidMessage (text : String) : String :=
  Text.quoted text ++ " is neither a validator index nor a 0x-prefixed public key"

end ValidatorId

end BeaconDuties
