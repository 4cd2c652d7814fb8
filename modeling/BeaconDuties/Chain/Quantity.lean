/-!
What a chain counts: slots, epochs, validators, committees and amounts. All are 64-bit numbers.
-/

namespace BeaconDuties

/-- A slot, counted from genesis. -/
abbrev Slot := UInt64

/-- An epoch, counted from genesis. -/
abbrev Epoch := UInt64

/-- The place of a validator in the registry. -/
abbrev ValidatorIndex := UInt64

/-- The place of a committee among those of its slot. -/
abbrev CommitteeIndex := UInt64

/-- An amount of the chain's currency, in billionths. -/
abbrev Gwei := UInt64

end BeaconDuties
