import BeaconDuties.Domain.Joiner
import BeaconDuties.Domain.Mapping
import BeaconDuties.Domain.Punycode
import BeaconDuties.Text.Composed
import BeaconDuties.Text.Mark
import BeaconDuties.Text.Pieces

/-!
Names of domains.

A name is a list of labels with points between them. Names that are written in many ways are one
name: capitals, wide letters and the like are replaced (`Mapping`), and characters are composed. A
label with characters that are not ASCII is then written with ASCII characters only, after a mark
(`ascii?`). A label that has the mark already is read back, and only accepted if it could have been
written that way.
-/

namespace BeaconDuties.Domain

/-- The mark of labels that are written in Punycode. -/
def mark : List Char := "xn--".toList

/-- The most characters that are written or read in Punycode. -/
def maxWritten : Nat := 1000

/-- The most characters of Punycode that are read. -/
def maxRead : Nat := 2000

/-- Whether all characters of a label are ASCII. -/
def isAscii (label : List Char) : Bool := label.all (·.toNat < 128)

/-- The codes of a label. -/
def codes (label : List Char) : List Nat := label.map Char.toNat

/-- The text with each character replaced by what it stands for, in the composed form. -/
def normal? (text : List Char) : Option (List Char) := do
  let replaced ← (codes text).mapM fun code =>
    match Mapping.of code with
    | .same => some [code]
    | .others codes => some codes
    | .refused => none
  return (Text.compose replaced.flatten).map Char.ofNat

/-- Whether a label in its normal form may stand in a name. -/
def isLabel (label : List Char) : Bool :=
  !(label.head?.map (Text.isMark ·.toNat)).getD false && areJoinersAllowed [] (codes label)

/-- Whether a label that was read from Punycode is in its normal form, and could not be written
    without Punycode. -/
def needsPunycode (label : List Char) : Bool :=
  !isAscii label && !mark.isPrefixOf label
    && (codes label).all (fun code => Mapping.of code == .same)
    && Text.compose (codes label) == codes label

/-- The label that a label in its normal form stands for. -/
def label? (label : List Char) : Option (List Char) := do
  if mark.isPrefixOf label then
    let text := label.drop mark.length
    guard (isAscii text && text.length ≤ maxRead)
    let label ← Punycode.decode? text
    guard (needsPunycode label && isLabel label)
    return label
  else
    guard (isLabel label)
    return label

/-- Whether all labels of a name are of one direction each, as they must be if one is written from
    right to left. -/
def areDirectionsSettled (labels : List (List Char)) : Bool :=
  let directions := labels.map fun label => (codes label).map Direction.of
  !directions.any (·.any Direction.runsLeft) || directions.all Direction.isSettled

/-- Writes a label with ASCII characters. -/
def asciiLabel? (label : List Char) : Option (List Char) :=
  if isAscii label then some label
  else if label.length ≤ maxWritten then some (mark ++ Punycode.encode label)
  else none

/-- A name in its normal form, with ASCII characters only. -/
def ascii? (name : List Char) : Option (List Char) := do
  let labels ← (Text.pieces (· == '.') (← normal? name)).mapM label?
  guard (areDirectionsSettled labels)
  return List.intercalate ['.'] (← labels.mapM asciiLabel?)

end BeaconDuties.Domain
