import Std.Data.ExtTreeMap
import BeaconDuties.Json.Storable
import BeaconDuties.Text.Hex

/-!
The specification of a chain: constants under keys, as a node reports them.

Constants come as texts, and what one is follows from its text and key (`SpecValue.classify`): a
numeral is a number, or a duration where the key names one; `0x` and digits are bytes; all else is
text. A constant that is asked for as something else than it is gives a `SpecFault`.

`Spec.ofJson?` takes the members of an object one after another, so that the last of a repeated key
counts. It passes over members that are neither a text nor a 64-bit number, but these must be
storable, since only the whole member shows what it is.
-/

namespace BeaconDuties

/-- The kinds of constants. -/
inductive SpecKind where
  | number
  | duration
  | bytes
  | text
deriving DecidableEq, Repr

/-- The name of a kind in messages. -/
def SpecKind.name : SpecKind → String
  | number => "unsigned integer"
  | duration => "duration"
  | bytes => "hex bytes"
  | text => "text"

/-- A constant. -/
inductive SpecValue where
  | number (n : UInt64)
  /-- A duration. Whole milliseconds are enough, since constants are whole seconds or whole
      milliseconds, and `SpecValue.classify` makes no other durations of them. -/
  | duration (millis : Nat)
  | bytes (bytes : List UInt8)
  | text (text : String)
deriving DecidableEq, Repr

namespace SpecValue

/-- The kind of a constant. -/
def kind : SpecValue → SpecKind
  | number _ => .number
  | duration _ => .duration
  | bytes _ => .bytes
  | text _ => .text

/-- What the number under a key means. -/
def ofNumber (key : String) (n : UInt64) : SpecValue :=
  if key = "SECONDS_PER_SLOT" then duration (n.toNat * 1000)
  else if key = "SLOT_DURATION_MS" then duration n.toNat
  else number n

/-- What the text under a key means. -/
def classify (key raw : String) : SpecValue :=
  match Numeral.read? raw with
  | some n => ofNumber key n
  | none =>
    match (Hex.stripPrefix? raw.toList).bind fun digits => (Hex.decode digits).toOption with
    | some content => bytes content
    | none => text raw

end SpecValue

/-- Why a chain's specification cannot be used. -/
inductive SpecFault where
  /-- There is no constant under the key. -/
  | missing (key : String)
  /-- The constant under the key is of another kind. -/
  | wrongKind (key : String) (expected found : SpecKind)
  /-- The constant under the key is zero, but something is divided by it. -/
  | zero (key : String)
deriving DecidableEq, Repr

/-- The wording of a fault in a specification. -/
def SpecFault.message : SpecFault → String
  | missing key => s!"required spec constant {key} is missing"
  | wrongKind key expected found =>
    let kinds := "(expected " ++ expected.name ++ ", found " ++ found.name ++ ")"
    s!"spec constant {key} has unexpected type {kinds}"
  | zero key => s!"spec constant {key} must not be zero"

/-- The constants of a chain by their keys. -/
structure Spec where
  values : Std.ExtTreeMap String SpecValue

namespace Spec

/-- No constants. -/
def empty : Spec := ⟨∅⟩

/-- The constant under a key. -/
def get? (spec : Spec) (key : String) : Option SpecValue := spec.values[key]?

/-- Puts a constant under a key, in place of any other. -/
def insert (spec : Spec) (key : String) (value : SpecValue) : Spec :=
  ⟨spec.values.insert key value⟩

/-- Removes the constant under a key. -/
def erase (spec : Spec) (key : String) : Spec := ⟨spec.values.erase key⟩

/-- The number of constants. -/
def size (spec : Spec) : Nat := spec.values.size

/-- The specification with the given constants; the last of a repeated key counts. -/
def ofList (pairs : List (String × SpecValue)) : Spec :=
  pairs.foldl (fun spec (key, value) => spec.insert key value) empty

/-- The number under a key, if there is a constant. -/
def number? (spec : Spec) (key : String) : Except SpecFault (Option UInt64) :=
  match spec.get? key with
  | none => .ok none
  | some (.number n) => .ok (some n)
  | some other => .error (.wrongKind key .number other.kind)

/-- The number under a key, or `default` if there is no constant. -/
def numberOr (spec : Spec) (key : String) (default : UInt64) : Except SpecFault UInt64 :=
  (spec.number? key).map (·.getD default)

/-- The number under a key. -/
def number (spec : Spec) (key : String) : Except SpecFault UInt64 :=
  match spec.number? key with
  | .ok (some n) => .ok n
  | .ok none => .error (.missing key)
  | .error fault => .error fault

/-- The duration under a key in milliseconds, if there is a constant. -/
def duration? (spec : Spec) (key : String) : Except SpecFault (Option Nat) :=
  match spec.get? key with
  | none => .ok none
  | some (.duration millis) => .ok (some millis)
  | some other => .error (.wrongKind key .duration other.kind)

/-- The bytes under a key, if there is a constant. -/
def bytes? (spec : Spec) (key : String) : Except SpecFault (Option (List UInt8)) :=
  match spec.get? key with
  | none => .ok none
  | some (.bytes content) => .ok (some content)
  | some other => .error (.wrongKind key .bytes other.kind)

/-- The constant that a member stands for, if it is a text or a 64-bit number. -/
def ofMember? (key : String) : Json → Option SpecValue
  | .string (some text) => some (.classify key text)
  | .number (.natural n) =>
    if n < UInt64.size then some (.classify key (Numeral.render n)) else none
  | _ => none

/-- Takes further members into a specification, if all of them can be stored. -/
def addMembers? (depth : Nat) (spec : Spec) : List (Option String × Json) → Option Spec
  | [] => some spec
  | (none, _) :: _ => none
  | (some key, value) :: rest =>
    if value.storable depth then
      match ofMember? key value with
      | some constant => addMembers? depth (spec.insert key constant) rest
      | none => addMembers? depth spec rest
    else none

/-- Reads a specification that lies inside `outer` arrays and objects. -/
def ofJson? (outer : Nat) : Json → Option Spec
  | .object members => addMembers? (Json.depthLimit - outer - 1) empty members
  | _ => none

end Spec

end BeaconDuties
