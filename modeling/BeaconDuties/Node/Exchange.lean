import BeaconDuties.Block.Message
import BeaconDuties.Json.Printer
import BeaconDuties.Json.Reader
import BeaconDuties.Node.Request

/-!
Requests and answers as they travel over HTTP.

`Request.call` is what is sent for a request: a method, an absolute path with its query and, for
requests that name validators, a body. `Request.ofReply` reads the answer from what comes back.
Content is announced by the status 200. The status 404 says that there is no such block or header;
for other requests it is as unexpected as any other status.
-/

namespace BeaconDuties

/-- The media type of requests and answers. -/
def mediaType : String := "application/json"

/-- What is sent to a node. -/
structure Call where
  method : String
  /-- The path, with its query. -/
  target : String
  body : Option Json

/-- What comes back from a node. -/
inductive Reply where
  /-- The connection broke before an answer came. -/
  | dropped
  /-- The answer did not come in time. -/
  | late
  | response (status : Nat) (body : String)
deriving DecidableEq, Repr

namespace Request

/-- The call for a path. -/
def get (path : List String) (query : Option Epoch) : Call where
  method := "GET"
  target := String.join (path.map ("/" ++ ·)) ++
    (query.map fun epoch => "?epoch=" ++ Numeral.renderUInt64 epoch).getD ""
  body := none

/-- The call that sends a body to a path. -/
def post (path : List String) (body : Json) : Call where
  method := "POST"
  target := String.join (path.map ("/" ++ ·))
  body := some body

/-- What is sent for a request. -/
def call : Request → Call
  | genesis => get ["eth", "v1", "beacon", "genesis"] none
  | spec => get ["eth", "v1", "config", "spec"] none
  | forkSchedule => get ["eth", "v1", "config", "fork_schedule"] none
  | validators state ids =>
    post ["eth", "v1", "beacon", "states", state.render, "validators"]
      (.record [("ids", .array (ids.map fun id => .text id.render))])
  | proposers epoch =>
    get ["eth", "v1", "validator", "duties", "proposer", Numeral.renderUInt64 epoch] none
  | attesters epoch indices =>
    post ["eth", "v1", "validator", "duties", "attester", Numeral.renderUInt64 epoch]
      (.array (indices.map .quantity))
  | committees state epoch =>
    get ["eth", "v1", "beacon", "states", state.render, "committees"] epoch
  | syncCommittee state epoch =>
    get ["eth", "v1", "beacon", "states", state.render, "sync_committees"] epoch
  | block id => get ["eth", "v2", "beacon", "blocks", id.render] none
  | header id => get ["eth", "v1", "beacon", "headers", id.render] none

/-- Reads what lies in the envelope of an answer. -/
def data? {α : Type} (read : Json → Option α) (value : Json) : Option α := do
  (← value.fields? ["data"]).read? "data" read

/-- Reads the content of an answer. -/
def content? : (request : Request) → Json → Option request.Answer
  | genesis => data? Genesis.ofJson?
  | spec => data? (Spec.ofJson? 1)
  | forkSchedule => data? (Json.list? Fork.ofJson?)
  | validators .. => data? (Json.list? ValidatorInfo.ofJson?)
  | proposers .. => data? (Json.list? ProposerDuty.ofJson?)
  | attesters .. => data? (Json.list? AttesterDuty.ofJson?)
  | committees .. => data? (Json.list? Committee.ofJson?)
  | syncCommittee .. => data? SyncCommittee.ofJson?
  | block _ => fun value => (Block.ofJson? value).map some
  | header _ => fun value => (data? Header.ofReply? value).map some

/-- The answer that the status 404 stands for, if it stands for one. -/
def absent? : (request : Request) → Option request.Answer
  | block _ => some none
  | header _ => some none
  | genesis | spec | forkSchedule | validators .. | proposers .. | attesters .. | committees ..
  | syncCommittee .. => none

/-- Reads the answer to a request from what came back. -/
def ofReply (request : Request) : Reply → Except NodeFault request.Answer
  | .dropped => .error .network
  | .late => .error .timeout
  | .response status body =>
    if status = 404 then
      match request.absent? with
      | some answer => .ok answer
      | none => .error (.unexpectedStatus 200 404)
    else if status = 200 then
      match (Json.read? body).bind request.content? with
      | some answer => .ok answer
      | none => .error .malformed
    else .error (.unexpectedStatus 200 status)

/-- Asks a node over a connection, unless the time is over. -/
def via {m : Type → Type} [Monad m] (exchange : Call → m Reply) (expired : Bool)
    (request : Request) : m (Except NodeFault request.Answer) := do
  if expired then return .error .timeout
  else return request.ofReply (← exchange request.call)

end Request

end BeaconDuties
