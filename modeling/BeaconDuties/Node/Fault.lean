/-!
What a node can serve, and how it can fail to.

A node says which capabilities it has, so that a missing one can be reported before any work is done
(`Capability.require`). Every request can fail for the reasons listed in `NodeFault`.
-/

namespace BeaconDuties

/-- A kind of request that a node may be able to serve. -/
inductive Capability where
  | genesis
  | spec
  | forkSchedule
  | validators
  | proposerDuties
  | attesterDuties
  | beaconCommittees
  | syncCommittees
  | signedBeaconBlocks
  | beaconBlockHeaders
deriving DecidableEq, Repr

namespace Capability

/-- All capabilities. Where several are missing, the first of them in this order is reported. -/
def all : List Capability :=
  [genesis, spec, forkSchedule, validators, proposerDuties, attesterDuties, beaconCommittees,
    syncCommittees, signedBeaconBlocks, beaconBlockHeaders]

/-- The name of a capability. -/
def name : Capability → String
  | genesis => "genesis"
  | spec => "spec"
  | forkSchedule => "fork_schedule"
  | validators => "validators"
  | proposerDuties => "proposer_duties"
  | attesterDuties => "attester_duties"
  | beaconCommittees => "beacon_committees"
  | syncCommittees => "sync_committees"
  | signedBeaconBlocks => "signed_beacon_blocks"
  | beaconBlockHeaders => "beacon_block_headers"

/-- The capability of a name. -/
def named? (text : String) : Option Capability := all.find? (·.name == text)

end Capability

/-- The name that goes with a status code, if it has one. -/
def statusName? : Nat → Option String
  | 100 => some "Continue"
  | 101 => some "Switching Protocols"
  | 102 => some "Processing"
  | 103 => some "Early Hints"
  | 200 => some "OK"
  | 201 => some "Created"
  | 202 => some "Accepted"
  | 203 => some "Non Authoritative Information"
  | 204 => some "No Content"
  | 205 => some "Reset Content"
  | 206 => some "Partial Content"
  | 207 => some "Multi-Status"
  | 208 => some "Already Reported"
  | 226 => some "IM Used"
  | 300 => some "Multiple Choices"
  | 301 => some "Moved Permanently"
  | 302 => some "Found"
  | 303 => some "See Other"
  | 304 => some "Not Modified"
  | 305 => some "Use Proxy"
  | 307 => some "Temporary Redirect"
  | 308 => some "Permanent Redirect"
  | 400 => some "Bad Request"
  | 401 => some "Unauthorized"
  | 402 => some "Payment Required"
  | 403 => some "Forbidden"
  | 404 => some "Not Found"
  | 405 => some "Method Not Allowed"
  | 406 => some "Not Acceptable"
  | 407 => some "Proxy Authentication Required"
  | 408 => some "Request Timeout"
  | 409 => some "Conflict"
  | 410 => some "Gone"
  | 411 => some "Length Required"
  | 412 => some "Precondition Failed"
  | 413 => some "Payload Too Large"
  | 414 => some "URI Too Long"
  | 415 => some "Unsupported Media Type"
  | 416 => some "Range Not Satisfiable"
  | 417 => some "Expectation Failed"
  | 418 => some "I'm a teapot"
  | 421 => some "Misdirected Request"
  | 422 => some "Unprocessable Entity"
  | 423 => some "Locked"
  | 424 => some "Failed Dependency"
  | 425 => some "Too Early"
  | 426 => some "Upgrade Required"
  | 428 => some "Precondition Required"
  | 429 => some "Too Many Requests"
  | 431 => some "Request Header Fields Too Large"
  | 451 => some "Unavailable For Legal Reasons"
  | 500 => some "Internal Server Error"
  | 501 => some "Not Implemented"
  | 502 => some "Bad Gateway"
  | 503 => some "Service Unavailable"
  | 504 => some "Gateway Timeout"
  | 505 => some "HTTP Version Not Supported"
  | 506 => some "Variant Also Negotiates"
  | 507 => some "Insufficient Storage"
  | 508 => some "Loop Detected"
  | 510 => some "Not Extended"
  | 511 => some "Network Authentication Required"
  | _ => none

/-- A status code with its name. -/
def statusText (code : Nat) : String :=
  toString code ++ " " ++ (statusName? code).getD "<unknown status code>"

/-- Why a node has not answered a request. -/
inductive NodeFault where
  /-- The time for the whole run is over. -/
  | timeout
  /-- The node could not be reached. -/
  | network
  /-- The address of the node is no address. -/
  | invalidUrl
  /-- The node answered with another status code than the one that announces content. -/
  | unexpectedStatus (expected received : Nat)
  /-- The node answered with something that cannot be read. -/
  | malformed
  /-- The node lacks a capability that the work needs. -/
  | missingCapability (capability : Capability)
  /-- The node was asked for something that it does not serve. -/
  | unsupported (capability : Capability)
deriving DecidableEq, Repr

/-- The wording of a node's fault. -/
def NodeFault.message : NodeFault → String
  | timeout => "deadline passed before the beacon node responded"
  | network => "request to beacon node failed"
  | invalidUrl => "invalid beacon node URL"
  | unexpectedStatus expected received =>
    "received unexpected status code: " ++ statusText received ++ ", expected: "
      ++ statusText expected
  | malformed => "beacon node response could not be decoded"
  | missingCapability capability =>
    "beacon node lacks required capability: " ++ capability.name
  | unsupported capability => "beacon node does not support " ++ capability.name

/-- Refuses to work with a node that lacks one of the required capabilities. -/
def Capability.require (available required : List Capability) : Except NodeFault Unit :=
  match all.find? fun capability => required.contains capability && !available.contains capability
  with
  | some capability => .error (.missingCapability capability)
  | none => .ok ()

/-- When the time for a run is over, in nanoseconds of a clock that never goes back. Without an end
    it never is. -/
structure Deadline where
  expiresAt : Option Nat
deriving DecidableEq, Repr

namespace Deadline

/-- No end. -/
def never : Deadline := ⟨none⟩

/-- The nanoseconds of the longest time that the clock can show: 63 bits of seconds. -/
def clockRange : Nat := Nat.pow 2 63 * 1000000000

/-- The end that comes `timeout` after `now`. An end that the clock will never show is none. -/
def after (now timeout : Nat) : Deadline :=
  ⟨if now + timeout < clockRange then some (now + timeout) else none⟩

/-- The time that is left, if there is an end. -/
def remaining (deadline : Deadline) (now : Nat) : Except NodeFault (Option Nat) :=
  match deadline.expiresAt with
  | none => .ok none
  | some expiresAt => if expiresAt ≤ now then .error .timeout else .ok (some (expiresAt - now))

end Deadline

end BeaconDuties
