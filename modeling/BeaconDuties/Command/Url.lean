import BeaconDuties.Command.Host
import BeaconDuties.Command.Path
import BeaconDuties.Text.Numeral

/-!
Addresses of nodes.

Reading an address puts it in its normal form: scheme and host in lower case, no port
that goes without saying, no steps up or down in the path, other characters as percent and digits
(`Url.read?`). An address without a scheme is none. A scheme that is followed by no slash has a
plain text after it, and no path can be followed from there (`Locus.plain`).
-/

namespace BeaconDuties

/-- What an address says between its scheme and its query. -/
inductive Locus where
  /-- A host, with a user before it and a port after it, and a path there. -/
  | hosted (authority : String) (path : Path)
  /-- A path without a host. -/
  | unhosted (path : Path)
  /-- A text that is no path. -/
  | plain (text : String)
deriving DecidableEq, Repr

/-- An address in its normal form. -/
structure Url where
  scheme : String
  locus : Locus
  query : Option String
  fragment : Option String
deriving DecidableEq, Repr

namespace Url

/-- The text of an address after the scheme. A path without a host that begins with an empty part
    is marked, so that it is not taken for a host. -/
def renderLocus : Locus → String
  | .hosted authority path => "//" ++ authority ++ path.render
  | .unhosted path =>
    if 1 < path.parts.length && path.parts.head? == some [] then "/." ++ path.render
    else path.render
  | .plain text => text

/-- The text of an address. -/
def render (x : Url) : String :=
  x.scheme ++ ":" ++ renderLocus x.locus ++ (x.query.map ("?" ++ ·)).getD ""
    ++ (x.fragment.map ("#" ++ ·)).getD ""

/-! ## Schemes -/

/-- The schemes whose addresses have a well-known form, with the ports that go without saying. -/
def knownSchemes : List (String × Option Nat) :=
  [("http", some 80), ("https", some 443), ("ws", some 80), ("wss", some 443), ("ftp", some 21),
    ("file", none)]

/-- Whether the addresses of a scheme have a well-known form. -/
def isKnown (scheme : String) : Bool := (knownSchemes.lookup scheme).isSome

/-- The characters that may be part of a scheme after its first letter. -/
def isSchemeChar (c : Char) : Bool := c.isAlphanum || c == '+' || c == '-' || c == '.'

/-- The scheme of an address, and what follows its colon. -/
def scheme? (text : List Char) : Option (String × List Char) :=
  let isPart (c : Char) := isSchemeChar c || Path.isBlank c
  let scheme := Path.clean (text.takeWhile isPart)
  match text.dropWhile isPart with
  | ':' :: rest =>
    if (scheme.head?.map Char.isAlpha).getD false then
      some (String.ofList (scheme.map Char.toLower), rest)
    else none
  | _ => none

/-! ## Users, hosts and ports -/

/-- The text before and after the last occurrence of a character. -/
def aroundLast (mark : Char) (text : List Char) : Option (List Char × List Char) :=
  let back := text.reverse.takeWhile (· != mark)
  if back.length = text.length then none
  else some (text.take (text.length - back.length - 1), back.reverse)

/-- The user and password before a host, in their normal form. -/
def userOf (text : List Char) : String :=
  let user := text.takeWhile (· != ':')
  let password := (text.dropWhile (· != ':')).drop 1
  let encode (part : List Char) := String.ofList (Percent.encode Percent.inUser part)
  if user.isEmpty && password.isEmpty then ""
  else encode user ++ (if password.isEmpty then "" else ":" ++ encode password) ++ "@"

/-- The host and the port that a text names. -/
def hostAndPort (text : List Char) : List Char × Option (List Char) :=
  match text with
  | '[' :: _ =>
    let rest := text.dropWhile (· != ']')
    match rest with
    | ']' :: ':' :: port => (text.take (text.length - port.length - 1), some port)
    | _ => (text, none)
  | _ =>
    match text.dropWhile (· != ':') with
    | _ :: port => (text.takeWhile (· != ':'), some port)
    | [] => (text, none)

/-- The port in its normal form: empty if there is none or it goes without saying. -/
def portOf? (scheme : String) : Option (List Char) → Option String
  | none | some [] => some ""
  | some digits => do
    let port ← Host.number? 10 digits
    guard (port < 65536)
    if knownSchemes.lookup scheme = some (some port) then return ""
    else return ":" ++ Numeral.render port

/-- The normal form of a host, whatever the scheme. -/
def hostOf? (known : Bool) (text : List Char) : Option String :=
  if known || text.head? = some '[' then Host.normal? text
  else if text.any Host.isForbidden then none
  else some (String.ofList (Percent.encode [] text))

/-- The host after two slashes with all that belongs to it, and the path there. `ends` says whether
    the address ends with `text`.

    With a known scheme there is always a host. With another one it may be missing, but then a user
    and a port are missing too; an empty user before it is overlooked only at the end of the
    address. A backslash ends the port, and with a scheme that is not known it is part of the
    path. -/
def hosted? (scheme : String) (ends : Bool) (text : List Char) : Option Locus := do
  let known := isKnown scheme
  let place := text.takeWhile (!Path.isSlash known ·)
  let after := text.drop place.length
  let (user, place) :=
    match aroundLast '@' place with
    | some (user, place) => (some user, place)
    | none => (none, place)
  let (host, port) := hostAndPort place
  let path := Path.read known ((port.getD []).dropWhile (· != '\\') ++ after)
  let shownUser := (user.map userOf).getD ""
  if host.isEmpty then
    guard (!known && port.isNone && shownUser = "")
    guard (user ≠ some [] || (ends && after.isEmpty))
    return .hosted "" path
  else
    let shownHost ← hostOf? known host
    let shownPort ← portOf? scheme (port.map (·.takeWhile (· != '\\')))
    return .hosted (shownUser ++ shownHost ++ shownPort) path

/-! ## Files -/

/-- The host of a file's address, which is empty if it is the own one. -/
def fileHost? (text : List Char) : Option String :=
  if text.isEmpty then some ""
  else (Host.normal? text).map fun host => if host = "localhost" then "" else host

/-- What follows a slash, if the text begins with one. -/
def afterSlash? (text : List Char) : Option (List Char) :=
  match text.dropWhile Path.isBlank with
  | c :: rest => if Path.isSlash true c then some rest else none
  | [] => none

/-- The host of a file and its path there. A drive is no host, and a path that begins with a drive
    is on no other host. -/
def file? (text : List Char) : Option Locus :=
  match afterSlash? text with
  | none => some (.hosted "" (Path.ofFile text).1)
  | some rest =>
    match afterSlash? rest with
    | none => some (.hosted "" (Path.ofFile rest).1)
    | some inner => do
      let name := inner.takeWhile (!Path.isSlash true ·)
      if Path.isDrive (Path.clean name) then return .hosted "" (Path.ofFile inner).1
      let host ← fileHost? (Path.clean name)
      let after := inner.drop name.length
      if host = "" then return .hosted "" (Path.ofFile after).1
      let (path, onDrive) := Path.ofFile (after.drop 1)
      return .hosted (if onDrive then "" else host) path

/-! ## Reading -/

/-- Whether the character stands around an address by accident. -/
def isPadding (c : Char) : Bool := c.toNat ≤ 32

/-- The text of an address without what stands around it by accident. -/
def trim (text : List Char) : List Char :=
  ((text.dropWhile isPadding).reverse.dropWhile isPadding).reverse

/-- What an address says after its scheme and before its query. -/
def locus? (scheme : String) (ends : Bool) (text : List Char) : Option Locus :=
  let cleaned := Path.clean text
  if scheme = "file" then file? text
  else if isKnown scheme then hosted? scheme ends (cleaned.dropWhile (Path.isSlash true))
  else
    match cleaned with
    | '/' :: '/' :: rest => hosted? scheme ends rest
    | '/' :: _ => some (.unhosted (Path.read false cleaned))
    | _ => some (.plain (String.ofList (Percent.encode [] cleaned)))

/-- Reads an address. -/
def read? (text : String) : Option Url := do
  let (scheme, rest) ← scheme? (trim text.toList)
  let beforeFragment := rest.takeWhile (· != '#')
  let body := beforeFragment.takeWhile (· != '?')
  let part (reserved : List Char) (text : List Char) :=
    match text with
    | [] => none
    | _ :: text => some (String.ofList (Percent.encode reserved (Path.clean text)))
  return {
    scheme
    locus := ← locus? scheme (body.length = rest.length) body
    query := part (Percent.inQuery (isKnown scheme)) (beforeFragment.drop body.length)
    fragment := part Percent.inFragment (rest.drop beforeFragment.length) }

/-! ## Connecting -/

/-- Whether no path can be followed from the address. -/
def isPlain (x : Url) : Bool :=
  match x.locus with
  | .plain _ => true
  | _ => false

/-- What stands between the two slashes and the path, if the address has a host. -/
def authority (x : Url) : Option String :=
  match x.locus with
  | .hosted authority _ => some authority
  | _ => none

/-- The host and the port to connect to, for an address of unencrypted HTTP. -/
def endpoint? (x : Url) : Option (String × UInt16) := do
  guard (x.scheme = "http")
  let authority := (← x.authority).toList
  let (_, place) := (aroundLast '@' authority).getD ([], authority)
  let (host, port) := hostAndPort place
  let port ← (port.map (Host.number? 10)).getD (some 80)
  return (String.ofList (host.filter fun c => c != '[' && c != ']'), UInt16.ofNat port)

end Url

end BeaconDuties
