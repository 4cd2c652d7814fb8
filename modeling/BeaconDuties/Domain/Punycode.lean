/-!
Punycode.

A label with any characters is written with letters, digits and hyphens: first the characters that
are of that kind anyway, then for each other character, in the order of their codes, how many steps
lead to it (`Punycode.encode`). A step leads from one place in the label to the next one, and from
the last place to the first one with the next code. The numbers of steps are written with digits
whose range adapts itself to the numbers before. `Punycode.decode?` reads the label back.
-/

namespace BeaconDuties.Domain.Punycode

/-! ## Numbers -/

/-- The digit of a value below 36: a letter, then the ten digits. -/
def digit (value : Nat) : Char :=
  if value < 26 then Char.ofNat (97 + value) else Char.ofNat (22 + value)

/-- The value of a digit. -/
def digitValue? (c : Char) : Option Nat :=
  if 'a' ≤ c && c ≤ 'z' then some (c.toNat - 97)
  else if '0' ≤ c && c ≤ '9' then some (c.toNat - 22)
  else none

/-- The digits below the threshold end a number. The threshold grows with the weight of the digit,
    the less the greater the bias. -/
def threshold (bias weight : Nat) : Nat :=
  if weight ≤ bias then 1 else if bias + 26 ≤ weight then 26 else weight - bias

theorem threshold_pos (bias weight : Nat) : 0 < threshold bias weight := by
  unfold threshold
  split
  · omega
  · split <;> omega

/-- Halves a number of steps by thirty-five until it is small, and counts. -/
def settle (steps weight : Nat) : Nat :=
  if 455 < steps then settle (steps / 35) (weight + 36)
  else weight + 36 * steps / (steps + 38)
termination_by steps
decreasing_by exact Nat.div_lt_self (by omega) (by omega)

/-- The bias after a number of steps to a character that makes a label of the given length. -/
def nextBias (steps length : Nat) (isFirst : Bool) : Nat :=
  let damped := if isFirst then steps / 700 else steps / 2
  settle (damped + damped / length) 0

/-- Writes a number, beginning with the digit of the least weight. -/
def digits (bias weight value : Nat) : List Char :=
  let least := threshold bias weight
  if value < least then [digit value]
  else
    digit (least + (value - least) % (36 - least))
      :: digits bias (weight + 36) ((value - least) / (36 - least))
termination_by value
decreasing_by
  have positive := threshold_pos bias weight
  exact Nat.lt_of_le_of_lt (Nat.div_le_self _ _) (by omega)

/-- Reads a number and gives what follows it. `unit` is what the next digit counts. -/
def number? (bias weight unit value : Nat) : List Char → Option (Nat × List Char)
  | [] => none
  | c :: rest =>
    match digitValue? c with
    | none => none
    | some d =>
      let least := threshold bias weight
      if d < least then some (value + d * unit, rest)
      else number? bias (weight + 36) (unit * (36 - least)) (value + d * unit) rest

theorem length_lt_of_number? {bias weight unit value : Nat} {text : List Char}
    {result : Nat × List Char} (h : number? bias weight unit value text = some result) :
    result.2.length < text.length := by
  induction text generalizing weight unit value with
  | nil => simp [number?] at h
  | cons c rest ih =>
    simp only [number?] at h
    split at h
    · simp at h
    · split at h
      · cases h
        simp
      · have := ih h
        simp only [List.length_cons]
        omega

/-! ## Writing -/

/-- What has been written of a label, and how many steps lead from the last character written to
    the place that is looked at. -/
structure Writer where
  text : List Char
  steps : Nat
  bias : Nat
  /-- How many characters have been written. -/
  length : Nat
  isFirst : Bool

/-- Passes a place in the label while the characters of code `code` are written. -/
def Writer.pass (x : Writer) (code : Nat) (c : Char) : Writer :=
  if c.toNat < code then { x with steps := x.steps + 1 }
  else if c.toNat = code then
    { text := x.text ++ digits x.bias 36 x.steps
      steps := 0
      bias := nextBias x.steps (x.length + 1) x.isFirst
      length := x.length + 1
      isFirst := false }
  else x

/-- Writes the characters of the given codes, which are in order. `code` is the first code that has
    not been looked at. -/
def Writer.write (x : Writer) (label : List Char) (code : Nat) : List Nat → Writer
  | [] => x
  | next :: codes =>
    let start := { x with steps := x.steps + (next - code) * (x.length + 1) }
    let done := label.foldl (fun writer c => writer.pass next c) start
    Writer.write { done with steps := done.steps + 1 } label (next + 1) codes

/-- Adds a code to codes that are in order. -/
def addCode (code : Nat) : List Nat → List Nat
  | [] => [code]
  | first :: codes =>
    if code < first then code :: first :: codes
    else if code = first then first :: codes
    else first :: addCode code codes

/-- Writes a label. -/
def encode (label : List Char) : List Char :=
  let plain := label.filter (·.toNat < 128)
  let codes := ((label.map Char.toNat).filter (128 ≤ ·)).foldr addCode []
  let front := if plain.isEmpty then [] else plain ++ ['-']
  (Writer.write ⟨front, 0, 72, plain.length, true⟩ label 128 codes).text

/-! ## Reading -/

/-- The character of a code, if there is one. -/
def char? (code : Nat) : Option Char :=
  if code < 0xd800 || (0xdfff < code && code < 0x110000) then some (Char.ofNat code) else none

/-- Puts the characters into a label that the text has numbers of steps for. `place` and `code` are
    where the steps begin. -/
def insert? (label : List Char) (bias code place : Nat) (isFirst : Bool) :
    List Char → Option (List Char)
  | [] => some label
  | c :: rest =>
    match _h : number? bias 36 1 0 (c :: rest) with
    | none => none
    | some (steps, text) =>
      let length := label.length + 1
      let there := (place + steps) % length
      let code := code + (place + steps) / length
      match char? code with
      | none => none
      | some new =>
        insert? (label.insertIdx there new) (nextBias steps length isFirst) code (there + 1) false
          text
termination_by text => text.length
decreasing_by exact length_lt_of_number? (by assumption)

/-- Reads a label in lower case. -/
def decode? (text : List Char) : Option (List Char) :=
  let back := text.reverse.takeWhile (· != '-')
  let front := text.take (text.length - back.length - 1)
  if front.isEmpty then insert? [] 72 128 0 true text
  else insert? front 72 128 0 true back.reverse

end BeaconDuties.Domain.Punycode
