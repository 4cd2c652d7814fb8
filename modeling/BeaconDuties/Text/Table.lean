/-!
Tables of characters.

A property of characters is a list of ranges of their codes (`inRanges`). What single characters
stand for is a list of words: a row has a first character and a word for it and each one after it,
and a word is made of codes in hexadecimal digits with hyphens between them (`expand`).
-/

namespace BeaconDuties.Text

/-- Whether one of the ranges holds the code point. -/
def inRanges (code : Nat) (ranges : List (Nat × Nat)) : Bool :=
  ranges.any fun (first, last) => first ≤ code && code ≤ last

/-- The value of a hexadecimal digit in lower case. -/
def nibble (c : Char) : Nat := if c.isDigit then c.toNat - 48 else c.toNat - 87

/-- Reads the codes of a word. `code` is the part of a code before the text. -/
def codesOf (code : Nat) : List Char → List Nat
  | [] => [code]
  | '-' :: rest => code :: codesOf 0 rest
  | c :: rest => codesOf (code * 16 + nibble c) rest

/-- Reads the words of a row. `word` is the part of a word before the text, the last character
    first. -/
def wordsOf (word : List Char) : List Char → List (List Char)
  | [] => [word.reverse]
  | ' ' :: rest => word.reverse :: wordsOf [] rest
  | c :: rest => wordsOf (c :: word) rest

/-- The characters of the rows, each with the codes of its word. -/
def expand (rows : List (Nat × String)) : List (Nat × List Nat) :=
  rows.flatMap fun (first, words) =>
    (wordsOf [] words.toList).zipIdx.map fun (word, i) => (first + i, codesOf 0 word)

end BeaconDuties.Text
