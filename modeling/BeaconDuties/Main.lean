import BeaconDuties.Command.Run
import BeaconDuties.Node.Http
import Std.Async.DNS
import Std.Async.TCP
import Std.Async.Timer

/-!
The program: reads the command line, asks the node over TCP, and prints the report.

All decisions are made elsewhere. Here a call is carried to the node and the reply back, within the
time that the command line allows for the whole run.
-/

namespace BeaconDuties.Program

open Std.Async Std.Net

instance : Inhabited Reply := ⟨.dropped⟩

/-- What is shown to someone who asks for help. -/
def help : String := Text.unlines [
  "Attestation, proposal and sync committee performance as seen by a beacon node",
  "",
  "Usage: beacon-duties [OPTIONS] <COMMAND>",
  "",
  "Commands:",
  "  epoch-summary      [--epoch EPOCH] [--validators ID,...]",
  "  block-analyze      [--block-id ID]",
  "  validator-summary  [--epoch EPOCH] --validators ID,...",
  "",
  "Options:",
  "  --connection URL      the beacon node to ask (http://localhost:5052)",
  "  --timeout MILLIS      the time for the whole command (30000)",
  "  --max-walk-steps N    the most slots to walk back through (1024)",
  "  --json                print reports as JSON",
  "  --verbose             print more detail",
  "  --quiet               print nothing on success",
  "  --always-write-style  color log messages in any case"]

/-- The place of a port on a host. -/
def place (port : UInt16) : IPAddr → SocketAddress
  | .v4 addr => .v4 ⟨addr, port⟩
  | .v6 addr => .v6 ⟨addr, port⟩

/-- Connects to the first of several places that can be reached. -/
def connect : List SocketAddress → Async TCP.Socket.Client
  | [] => throw (.userError "no place to connect to")
  | [last] => do
    let client ← TCP.Socket.Client.mk
    client.connect last
    return client
  | first :: rest => do
    try
      let client ← TCP.Socket.Client.mk
      client.connect first
      return client
    catch _ => connect rest

/-- What comes over a connection until it ends. -/
partial def receive (client : TCP.Socket.Client) (received : ByteArray) : Async ByteArray := do
  match ← client.recv? 65536 with
  | some bytes => receive client (received ++ bytes)
  | none => return received

/-- Carries a call to a node and the reply back. -/
def carry (authority host : String) (port : UInt16) (call : Call) : Async Reply := do
  let addresses ← DNS.getAddrInfo host (toString port)
  let client ← connect (addresses.toList.map (place port))
  client.send (call.message authority).toUTF8
  match String.fromUTF8? (← receive client .empty) with
  | some message => return .ofMessage message
  | none => return .dropped

/-- The reply that comes when the given nanoseconds are over. -/
def late (nanoseconds : Nat) : Async Reply := do
  sleep (.ofNat (nanoseconds / 1000000 + 1))
  return .late

/-- Exchanges messages with the node at an address, for as long as there is time. -/
def exchange (url : Url) (deadline : Deadline) (call : Call) : IO Reply := do
  match deadline.remaining (← IO.monoNanosNow), url.endpoint? with
  | .error _, _ => return .late
  | .ok _, none => return .dropped
  | .ok left, some (host, port) =>
    try
      let carried := carry (url.authority.getD host) host port call
      match left with
      | some left => (Async.race carried (late left)).block
      | none => carried.block
    catch _ => return .dropped

/-- Asks the node at an address. From an address that is a plain text no path can be followed. -/
def ask (url : Url) (deadline : Deadline) (request : Request) :
    IO (Except NodeFault request.Answer) := do
  if url.isPlain then return .error .invalidUrl
  else request.via (exchange url deadline) false

/-- The time on the wall, in nanoseconds since the start of 1970. -/
def wallTime : IO Nat := do
  return (← Std.Time.Timestamp.now).toNanosecondsSinceUnixEpoch.toInt.toNat

/-- Runs what the arguments ask for and gives the exit code. -/
def run (arguments : Arguments) : IO UInt32 := do
  let deadline := Deadline.after (← IO.monoNanosNow) (arguments.timeout.toNat * 1000000)
  let limits : Limits := ⟨arguments.timeout = 0, arguments.maxWalk⟩
  let survey := arguments.command.run Capability.all limits arguments.output (← wallTime)
  let result ← survey.inquiry.converse (ask arguments.url deadline)
  IO.print (Command.printed result)
  match result with
  | .ok _ => return 0
  | .error failure =>
    IO.eprintln failure.message
    return 1

end BeaconDuties.Program

/-- Runs the program and gives its exit code. -/
def main (texts : List String) : IO UInt32 := do
  match BeaconDuties.Arguments.read texts with
  | .ok arguments => BeaconDuties.Program.run arguments
  | .error .displayHelp =>
    IO.print BeaconDuties.Program.help
    return 0
  | .error fault =>
    IO.eprintln fault.name
    IO.eprint BeaconDuties.Program.help
    return 2
