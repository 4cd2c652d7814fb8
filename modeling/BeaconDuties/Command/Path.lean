import BeaconDuties.Command.Percent
import BeaconDuties.Text.Pieces

/-!
The paths of addresses.

A path is a list of parts, each written after a slash. Parts that are steps, up or down, are taken
when a path is read (`Path.resolve`); a step up never leaves the path, and it never leaves a drive,
which is a part of one letter and a mark. The path of a file begins with its first part that is not
empty, and a drive at its beginning is written with a colon (`Path.ofFile`).
-/

namespace BeaconDuties

/-- The parts of a path. -/
structure Path where
  parts : List (List Char)
deriving DecidableEq, Repr

namespace Path

/-- The text of a path. The path without parts has an empty one. -/
def render (x : Path) : String := String.ofList (x.parts.flatMap ('/' :: ·))

/-- Whether the character ends a part of a path. -/
def isSlash (known : Bool) (c : Char) : Bool := c == '/' || (known && c == '\\')

/-- Whether the character may stand anywhere in an address and means nothing there. -/
def isBlank (c : Char) : Bool := c == '\t' || c == '\n' || c == '\r'

/-- The text without the characters that mean nothing. -/
def clean (text : List Char) : List Char := text.filter (!isBlank ·)

/-! ## Drives -/

/-- Whether the character makes a letter before it a drive. -/
def isDriveMark (c : Char) : Bool := c == ':' || c == '|'

/-- Whether the text is a drive: one letter and a mark. -/
def isDrive : List Char → Bool
  | [letter, mark] => letter.isAlpha && isDriveMark mark
  | _ => false

/-- A drive with a colon for its mark. Another part is left as it is. -/
def normalDrive (part : List Char) : List Char :=
  if isDrive part then part.take 1 ++ [':'] else part

/-- Whether no step leads up from the part: it is a drive, or it begins with one that a backslash
    follows. -/
def isAnchor (part : List Char) : Bool :=
  isDrive (part.take 2) && (part.length == 2 || part[2]? == some '\\')

/-! ## Steps -/

/-- Whether a part of a path is one of the given steps. -/
def isStep (steps : List String) (part : List Char) : Bool :=
  steps.contains (String.ofList (part.map Char.toLower))

/-- The step to the part before. -/
def isStepUp : List Char → Bool := isStep ["..", ".%2e", "%2e.", "%2e%2e"]

/-- The step that leads nowhere. -/
def isStay : List Char → Bool := isStep [".", "%2e"]

/-- The parts before the last one, which stays if it is an anchor. `done` holds the parts, the last
    one first. -/
def up : List (List Char) → List (List Char)
  | [] => []
  | part :: done => if isAnchor part then part :: done else done

/-- The parts of a path after its steps. `done` holds those that are left, the last one first. A
    step at the end leads to an empty part. In a file's path the first part may be a drive. -/
def resolve (isFile : Bool) (done : List (List Char)) : List (List Char) → List (List Char)
  | [] => done.reverse
  | part :: rest =>
    if isStepUp part then resolve isFile (if rest.isEmpty then [] :: up done else up done) rest
    else if isStay part then resolve isFile (if rest.isEmpty then [] :: done else done) rest
    else
      let part := Percent.encode Percent.inPath part
      resolve isFile ((if isFile && done.isEmpty then normalDrive part else part) :: done) rest

/-- The path in its normal form. With a known scheme there is always one. -/
def read (known : Bool) : List Char → Path
  | [] => ⟨if known then [[]] else []⟩
  | c :: rest =>
    let inner := if isSlash known c then rest else c :: rest
    ⟨resolve false [] (Text.pieces (isSlash known) inner)⟩

/-! ## Files -/

/-- The drive and the text after it if a blank is all that separates them. -/
def splitDrive? (part : List Char) : Option (List Char × List Char) :=
  match part.dropWhile isBlank with
  | letter :: rest =>
    match rest.dropWhile isBlank with
    | ':' :: blank :: rest =>
      if letter.isAlpha && isBlank blank && !(clean rest).isEmpty then
        some ([letter, ':'], clean rest)
      else none
    | _ => none
  | [] => none

/-- The parts of a file's path, and whether the first one is a drive. A drive that a blank separates
    from the text after it is a part of its own, which is not taken for a drive. -/
def fileParts (text : List Char) : List (List Char) × Bool :=
  match Text.pieces (isSlash true) text with
  | [] => ([], false)
  | first :: rest =>
    match splitDrive? first with
    | some (drive, name) =>
      (resolve true [Percent.encode Percent.inPath name, drive] (rest.map clean), false)
    | none =>
      let parts := resolve true [] ((first :: rest).map clean)
      (parts, (parts.head?.map isDrive).getD false)

/-- The path of a file, and whether it begins with a drive. Empty parts at the beginning are left
    out. -/
def ofFile (text : List Char) : Path × Bool :=
  let (parts, onDrive) := fileParts text
  let parts := parts.dropWhile List.isEmpty
  (⟨if parts.isEmpty then [[]] else parts⟩, onDrive)

end Path

end BeaconDuties
