import BeaconDuties.Node.Exchange

/-!
Calls and replies as HTTP messages.

`Call.message` writes a call and `Reply.ofMessage` reads a reply. Version 1.0 of the protocol is
spoken, so that the body of a reply comes in one piece and ends with the connection.
-/

namespace BeaconDuties

namespace Call

/-- The text that is sent as the body. -/
def bodyText (call : Call) : String := (call.body.map Json.render).getD ""

/-- The lines before the body, for a node at the given authority. -/
def headLines (call : Call) (authority : String) : List String :=
  [call.method ++ " " ++ call.target ++ " HTTP/1.0", "Host: " ++ authority,
    "Accept: " ++ mediaType]
  ++ if call.body.isSome then
      ["Content-Type: " ++ mediaType, "Content-Length: " ++ toString call.bodyText.utf8ByteSize]
    else []

/-- The message of a call to a node at the given authority. -/
def message (call : Call) (authority : String) : String :=
  String.join ((call.headLines authority ++ [""]).map (· ++ "\r\n")) ++ call.bodyText

end Call

namespace Reply

/-- The status of a message, which stands in its first line after the version of the protocol. -/
def status? (message : List Char) : Option Nat := do
  guard (['H', 'T', 'T', 'P', '/'].isPrefixOf message)
  let digits := ((message.dropWhile (· != ' ')).drop 1).takeWhile Char.isDigit
  guard (digits.length = 3)
  return Json.Reader.digitsValue digits

/-- The body of a message, which begins after the first empty line. -/
def body? : List Char → Option (List Char)
  | '\r' :: '\n' :: '\r' :: '\n' :: body => some body
  | _ :: rest => body? rest
  | [] => none

/-- The reply in a message. A message that breaks off before its body is none. -/
def ofMessage (message : String) : Reply :=
  match status? message.toList, body? message.toList with
  | some status, some body => .response status (String.ofList body)
  | _, _ => .dropped

end Reply

end BeaconDuties
