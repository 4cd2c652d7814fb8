import BeaconDuties.Bits
import BeaconDuties.Bytes
import BeaconDuties.Chain.Quantity
import BeaconDuties.Digest

/-!
Attestations: the votes of committees.

An attestation carries what was voted for and one bit for each member of the committees that it
covers. Before Electra it covers the committee that its data names, since Electra those that its
committee bits name (`Attestation.committeeIndices`).

The same attestation may be included in several blocks. It is known again by its identity root, the
digest of all that it carries (`Attestation.identityRoot`).
-/

namespace BeaconDuties

/-- An epoch and the root of the block at its start. -/
structure Checkpoint where
  epoch : Epoch
  root : Root
deriving DecidableEq

/-- What an attestation votes for. -/
structure AttestationData where
  /-- The slot in which the voters were on duty. -/
  slot : Slot
  index : CommitteeIndex
  /-- The block voted for as the head of the chain. -/
  head : Root
  source : Checkpoint
  target : Checkpoint
deriving DecidableEq

/-- An attestation of one committee. -/
structure SingleAttestation where
  bits : BitList
  data : AttestationData
  signature : Signature
deriving DecidableEq

/-- An attestation of several committees of one slot. -/
structure JointAttestation where
  /-- The bits of the members, committee after committee. -/
  bits : BitList
  data : AttestationData
  signature : Signature
  /-- The committees that are covered. -/
  committeeBits : BitVector
deriving DecidableEq

/-- An attestation of either kind. -/
inductive Attestation where
  | single (attestation : SingleAttestation)
  | joint (attestation : JointAttestation)
deriving DecidableEq

namespace Attestation

/-- What is voted for. -/
def data : Attestation → AttestationData
  | single attestation => attestation.data
  | joint attestation => attestation.data

/-- The bits of the members. -/
def bits : Attestation → BitList
  | single attestation => attestation.bits
  | joint attestation => attestation.bits

/-- The signature of the voters. -/
def signature : Attestation → Signature
  | single attestation => attestation.signature
  | joint attestation => attestation.signature

/-- The bits of the committees, if several may be covered. -/
def committeeBits? : Attestation → Option BitVector
  | single _ => none
  | joint attestation => some attestation.committeeBits

/-- The committees that are covered, in ascending order. -/
def committeeIndices : Attestation → List CommitteeIndex
  | single attestation => [attestation.data.index]
  | joint attestation => attestation.committeeBits.ones.map UInt64.ofNat

/-- The bytes of a 64-bit number, lowest first. -/
def quantityBytes (n : UInt64) : List UInt8 :=
  (List.range 8).map fun i => UInt8.ofNat (n.toNat / Nat.pow 256 i)

/-- All that an attestation carries, as bytes. -/
def identityBytes (attestation : Attestation) : List UInt8 :=
  let data := attestation.data
  attestation.bits.toBytes ++ quantityBytes data.slot ++ quantityBytes data.index
    ++ data.head.bytes ++ quantityBytes data.source.epoch ++ data.source.root.bytes
    ++ quantityBytes data.target.epoch ++ data.target.root.bytes ++ attestation.signature.bytes
    ++ (attestation.committeeBits?.map BitVector.toBytes).getD []

/-- The digest by which an attestation is known again. -/
def identityRoot (attestation : Attestation) : Root := Sha256.digest attestation.identityBytes

end Attestation

end BeaconDuties
