import BeaconDuties.Chain.Quantity
import BeaconDuties.Number.Saturating
import BeaconDuties.Text.Numeral
import BeaconDuties.Text.Quoted

/-!
How epochs are named on the command line: by words, by numbers, or by how long ago they were.
-/

namespace BeaconDuties

/-- An epoch as it is named. -/
inductive EpochSelector where
  /-- The current epoch. -/
  | current
  /-- The epoch before the current one. -/
  | last
  | absolute (epoch : Epoch)
  /-- So many epochs ago. -/
  | back (epochs : UInt64)
deriving DecidableEq, Repr

namespace EpochSelector

/-- Reads a name of an epoch. -/
def read (text : String) : Except Numeral.ReadError EpochSelector :=
  if text = "" ∨ text = "current" ∨ text = "head" ∨ text = "-0" then .ok current
  else if text = "last" then .ok last
  else
    match text.toList with
    | '-' :: digits => (Numeral.readChars digits).map back
    | chars => (Numeral.readChars chars).map absolute

/-- The message for a text that names no epoch. -/
def invalidMessage (text : String) (reason : Numeral.ReadError) : String :=
  Text.quoted text ++ " is not an epoch: " ++ reason.message

/-- The epoch that is meant. There is none before epoch 0. -/
def resolve (current : Epoch) : EpochSelector → Epoch
  | .current => current
  | last => satSub current 1
  | absolute epoch => epoch
  | back epochs => satSub current epochs

end EpochSelector

end BeaconDuties
