/-!
The phases of the beacon chain.

Each fork starts a new phase. Phases are listed in the order of their forks (`Phase.all`), named in
lower case, and named by anyone in any case (`Phase.read?`). A chain's specification says under
`Phase.forkEpochKey?` in which epoch a phase starts, and under `Phase.forkVersionKey` which version
its fork has.
-/

namespace BeaconDuties

/-- A phase of the beacon chain. -/
inductive Phase where
  | phase0
  | altair
  | bellatrix
  | capella
  | deneb
  | electra
  | fulu
deriving DecidableEq, Repr

namespace Phase

/-- All phases in their order. -/
def all : List Phase := [phase0, altair, bellatrix, capella, deneb, electra, fulu]

/-- The place of a phase in their order. -/
def ordinal : Phase → Nat
  | phase0 => 0
  | altair => 1
  | bellatrix => 2
  | capella => 3
  | deneb => 4
  | electra => 5
  | fulu => 6

/-- Phases are ordered as their forks are. -/
instance : LE Phase := ⟨fun p q => p.ordinal ≤ q.ordinal⟩

instance (p q : Phase) : Decidable (p ≤ q) := inferInstanceAs (Decidable (p.ordinal ≤ q.ordinal))

/-- The name of a phase. -/
def name : Phase → String
  | phase0 => "phase0"
  | altair => "altair"
  | bellatrix => "bellatrix"
  | capella => "capella"
  | deneb => "deneb"
  | electra => "electra"
  | fulu => "fulu"

/-- The phase of exactly this name. -/
def named? (text : String) : Option Phase := all.find? (·.name == text)

/-- The phase of this name in any case. -/
def read? (text : String) : Option Phase := named? (String.ofList (text.toList.map Char.toLower))

/-- The message for a text that names no phase. -/
def unknownMessage : String := "Matching variant not found"

/-- The key of the epoch in which a phase starts. The first phase starts with the chain. -/
def forkEpochKey? : Phase → Option String
  | phase0 => none
  | altair => some "ALTAIR_FORK_EPOCH"
  | bellatrix => some "BELLATRIX_FORK_EPOCH"
  | capella => some "CAPELLA_FORK_EPOCH"
  | deneb => some "DENEB_FORK_EPOCH"
  | electra => some "ELECTRA_FORK_EPOCH"
  | fulu => some "FULU_FORK_EPOCH"

/-- The key of the version of a phase's fork. -/
def forkVersionKey : Phase → String
  | phase0 => "GENESIS_FORK_VERSION"
  | altair => "ALTAIR_FORK_VERSION"
  | bellatrix => "BELLATRIX_FORK_VERSION"
  | capella => "CAPELLA_FORK_VERSION"
  | deneb => "DENEB_FORK_VERSION"
  | electra => "ELECTRA_FORK_VERSION"
  | fulu => "FULU_FORK_VERSION"

end Phase

end BeaconDuties
