import BeaconDuties.Text.CombiningClass
import BeaconDuties.Text.Decomposition

/-!
The composed form of texts.

Texts that differ only in how their characters are composed from marks mean the same. Of these, the
composed form is the one in which all that can be composed is composed (`compose`): a text is
divided as far as it can be (`divide`), marks are put in the order of their classes
(`orderMarks`), and then each character takes up the marks after it that it can be composed with.
-/

namespace BeaconDuties.Text

/-! ## Syllables of Korean -/

/-- The first Korean syllable. -/
def syllableBase : Nat := 0xac00

/-- The first of the letters that a syllable begins with, and the number of them. -/
def leadBase : Nat := 0x1100

/-- How many letters a syllable can begin with. -/
def leadCount : Nat := 19

/-- The first of the vowels. -/
def vowelBase : Nat := 0x1161

/-- How many vowels there are. -/
def vowelCount : Nat := 21

/-- The code before the first of the letters that a syllable can end with. -/
def tailBase : Nat := 0x11a7

/-- How many ends a syllable can have, of which one is none. -/
def tailCount : Nat := 28

/-- The letters of a syllable. -/
def syllableLetters? (code : Nat) : Option (List Nat) :=
  let i := code - syllableBase
  if code < syllableBase || leadCount * vowelCount * tailCount ≤ i then none
  else
    let front := [leadBase + i / (vowelCount * tailCount),
      vowelBase + i % (vowelCount * tailCount) / tailCount]
    some (if i % tailCount = 0 then front else front ++ [tailBase + i % tailCount])

/-- The syllable of two letters, or of a syllable without an end and its end. -/
def syllable? (code next : Nat) : Option Nat :=
  if leadBase ≤ code && code < leadBase + leadCount
      && vowelBase ≤ next && next < vowelBase + vowelCount then
    some (syllableBase
      + ((code - leadBase) * vowelCount + (next - vowelBase)) * tailCount)
  else if syllableBase ≤ code && code < syllableBase + leadCount * vowelCount * tailCount
      && (code - syllableBase) % tailCount == 0
      && tailBase < next && next < tailBase + tailCount then
    some (code + (next - tailBase))
  else none

/-! ## Dividing -/

/-- Divides each character once, if it can be divided. -/
def divideOnce (codes : List Nat) : List Nat :=
  codes.flatMap fun code =>
    ((syllableLetters? code).or (decomposition? code)).getD [code]

/-- Divides a text as far as it can be. No character can be divided more than four times. -/
def divide (codes : List Nat) : List Nat :=
  divideOnce (divideOnce (divideOnce (divideOnce codes)))

/-! ## The order of marks -/

/-- Adds a character to a text whose last character comes first. A mark goes before the marks of
    higher classes. -/
def addMark (code : Nat) : List Nat → List Nat
  | [] => [code]
  | last :: before =>
    if 0 < combiningClass code && combiningClass code < combiningClass last then
      last :: addMark code before
    else code :: last :: before

/-- Puts the marks after each character in the order of their classes. -/
def orderMarks (codes : List Nat) : List Nat :=
  (codes.foldl (fun done code => addMark code done) []).reverse

/-! ## Composing -/

/-- What two characters are composed to. -/
def composition? (code next : Nat) : Option Nat :=
  (syllable? code next).or
    (compositions.findSome? fun (composed, parts) =>
      if parts == [code, next] then some composed else none)

/-- Composes a character with what follows it. `marks` holds the marks after it that it did not take
    up, the last one first; a mark is out of reach if one of its class or a higher one precedes
    it. -/
def composeFrom (code : Nat) (marks : List Nat) : List Nat → List Nat
  | [] => code :: marks.reverse
  | next :: rest =>
    let place := combiningClass next
    let inReach := marks.head?.all fun mark => combiningClass mark < place
    match if inReach then composition? code next else none with
    | some composed => composeFrom composed marks rest
    | none =>
      if place = 0 then code :: marks.reverse ++ composeFrom next [] rest
      else composeFrom code (next :: marks) rest

/-- Composes a text in which the marks are in order. Marks at its beginning stay as they are. -/
def composeMarks (codes : List Nat) : List Nat :=
  let front := codes.takeWhile (combiningClass · != 0)
  match codes.dropWhile (combiningClass · != 0) with
  | [] => front
  | code :: rest => front ++ composeFrom code [] rest

/-- The composed form of a text. -/
def compose (codes : List Nat) : List Nat := composeMarks (orderMarks (divide codes))

end BeaconDuties.Text
