import BeaconDuties.Command.Percent
import BeaconDuties.Domain.Name
import BeaconDuties.Text.Pieces

/-!
The hosts of addresses.

A host is a name, an IPv4 address or an IPv6 address. Addresses can be written in many ways, and
each has one normal form: four decimal numbers, or eight groups of hexadecimal digits without
superfluous zeros whose longest run of zero groups is left out (`Host.normal?`). Names have the
normal form of `Domain.ascii?`.
-/

namespace BeaconDuties.Host

/-- A number in the given base. -/
def number? (base : Nat) (digits : List Char) : Option Nat :=
  digits.foldlM (fun value c => do return value * base + (← Percent.digit? base c)) 0

/-! ## IPv4 -/

/-- A part of an IPv4 address: hexadecimal after 0x, octal after 0, otherwise decimal. -/
def part? : List Char → Option Nat
  | [] => none
  | '0' :: 'x' :: digits | '0' :: 'X' :: digits => number? 16 digits
  | '0' :: digits => number? 8 digits
  | digits => number? 10 digits

/-- The parts of a name between points, without an empty one at its end. -/
def labels (name : List Char) : List (List Char) :=
  let parts := Text.pieces (· == '.') name
  if 1 < parts.length && parts.getLast? == some [] then parts.dropLast else parts

/-- Whether a name ends in a number, so that it can only be an IPv4 address. -/
def endsInNumber (name : List Char) : Bool :=
  match (labels name).getLast? with
  | none => false
  | some last => (!last.isEmpty && last.all Char.isDigit) ||
      (match last with
        | '0' :: 'x' :: _ | '0' :: 'X' :: _ => (part? last).isSome
        | _ => false)

/-- The number that an IPv4 address stands for. All parts but the last are bytes, and the last one
    makes up for missing parts. -/
def ipv4? (name : List Char) : Option Nat := do
  let parts ← (labels name).mapM part?
  guard (parts.length ≤ 4)
  let front := parts.dropLast
  let last ← parts.getLast?
  guard (front.all (· < 256) ∧ last < Nat.pow 256 (5 - parts.length))
  return front.foldl (fun value byte => value * 256 + byte) 0 * Nat.pow 256 (5 - parts.length)
    + last

/-- Writes an IPv4 address. -/
def renderIpv4 (address : Nat) : String :=
  String.intercalate "." ([3, 2, 1, 0].map fun i => toString (address / Nat.pow 256 i % 256))

/-! ## IPv6 -/

/-- A group of an IPv6 address: one to four hexadecimal digits. -/
def group? (digits : List Char) : Option Nat := do
  guard (0 < digits.length ∧ digits.length ≤ 4)
  number? 16 digits

/-- A byte in decimal digits without superfluous zeros. -/
def byte? (digits : List Char) : Option Nat := do
  guard (0 < digits.length ∧ digits.length ≤ 3)
  guard (digits.head? ≠ some '0' ∨ digits.length = 1)
  (← number? 10 digits) |> fun value => if value < 256 then some value else none

/-- The groups between colons; the last piece may be an IPv4 address, which is two groups. -/
def groups? : List (List Char) → Option (List Nat)
  | [] => some []
  | [last] =>
    if last.contains '.' then do
      let bytes ← (Text.pieces (· == '.') last).mapM byte?
      match bytes with
      | [a, b, c, d] => return [a * 256 + b, c * 256 + d]
      | _ => none
    else do return [← group? last]
  | piece :: rest => do return (← group? piece) :: (← groups? rest)

/-- The groups of a text between colons, of which there may be none. -/
def groupsOf? (text : List Char) : Option (List Nat) :=
  if text.isEmpty then some [] else groups? (Text.pieces (· == ':') text)

/-- The text before and after the first pair of colons. -/
def aroundGap : List Char → Option (List Char × List Char)
  | ':' :: ':' :: rest => some ([], rest)
  | c :: rest => (aroundGap rest).map fun (front, back) => (c :: front, back)
  | [] => none

/-- The eight groups of an IPv6 address. A pair of colons stands for at least one group of zero. -/
def ipv6? (text : List Char) : Option (List Nat) :=
  match aroundGap text with
  | none => do
    let groups ← groupsOf? text
    guard (groups.length = 8)
    return groups
  | some (front, back) => do
    guard (!front.contains '.')
    let front ← groupsOf? front
    let back ← groupsOf? back
    guard (front.length + back.length < 8)
    return front ++ List.replicate (8 - front.length - back.length) 0 ++ back

/-- The length of the run of zeros at the start of groups. -/
def zeroRun (groups : List Nat) : Nat := (groups.takeWhile (· == 0)).length

/-- The groups with colons between them. -/
def renderGroups (groups : List Nat) : String :=
  String.intercalate ":" (groups.map fun group => String.ofList (Nat.toDigits 16 group))

/-- Writes an IPv6 address. The first of the longest runs of zeros is left out if there are two
    zeros in it or more. -/
def renderIpv6 (groups : List Nat) : String :=
  let runs := (List.range 8).map fun i => zeroRun (groups.drop i)
  let longest := runs.foldl max 0
  if longest < 2 then renderGroups groups
  else
    let start := runs.findIdx (· == longest)
    renderGroups (groups.take start) ++ "::" ++ renderGroups (groups.drop (start + longest))

/-! ## Names -/

/-- The characters that no host may hold. -/
def isForbidden (c : Char) : Bool :=
  c.toNat = 0 || c == '\t' || c == '\n' || c == '\r' || c == ' ' || c == '#' || c == '/' || c == ':'
    || c == '<' || c == '>' || c == '?' || c == '@' || c == '[' || c == '\\' || c == ']' || c == '^'
    || c == '|'

/-- The characters that no name may hold. -/
def isForbiddenInName (c : Char) : Bool :=
  isForbidden c || c == '%' || c.toNat < 32 || c.toNat = 127

/-- The normal form of the host of an address whose scheme has well-known hosts. -/
def normal? : List Char → Option String
  | '[' :: rest => do
    guard (rest.getLast? = some ']')
    return "[" ++ renderIpv6 (← ipv6? rest.dropLast) ++ "]"
  | text => do
    let bytes := Percent.decode text
    let written ← String.fromUTF8? ⟨bytes.toArray⟩
    let name ← Domain.ascii? written.toList
    guard (!name.isEmpty && !name.any isForbiddenInName)
    if endsInNumber name then return renderIpv4 (← ipv4? name)
    else return String.ofList name

end BeaconDuties.Host
