import BeaconDuties.Json.Value

/-!
JSON text without blanks.

`Json.render` writes a value. In strings, the quotation mark, the backslash and the control
characters are escaped and every other character stands for itself. A string that is no text is
written as half of a surrogate pair.
-/

namespace BeaconDuties.Json

/-- How a character is written in a string. -/
def escaped (c : Char) : List Char :=
  if c = '"' then ['\\', '"']
  else if c = '\\' then ['\\', '\\']
  else if c = '\n' then ['\\', 'n']
  else if c = '\r' then ['\\', 'r']
  else if c = '\t' then ['\\', 't']
  else if c.toNat = 8 then ['\\', 'b']
  else if c.toNat = 12 then ['\\', 'f']
  else if c.toNat < 16 then ['\\', 'u', '0', '0', '0', Nat.digitChar c.toNat]
  else if c.toNat < 32 then ['\\', 'u', '0', '0', '1', Nat.digitChar (c.toNat - 16)]
  else [c]

/-- The text of a string. -/
def stringChars : Option String → List Char
  | some text => '"' :: text.toList.flatMap escaped ++ ['"']
  | none => ['"', '\\', 'u', 'd', '8', '0', '0', '"']

/-- The text of a number. -/
def Number.chars : Number → List Char
  | natural n => Nat.toDigits 10 n
  | spelled spelling => spelling.toList

mutual

/-- The text of a value. -/
def chars : Json → List Char
  | null => ['n', 'u', 'l', 'l']
  | bool true => ['t', 'r', 'u', 'e']
  | bool false => ['f', 'a', 'l', 's', 'e']
  | number value => value.chars
  | string text => stringChars text
  | array [] => ['[', ']']
  | array (item :: items) => '[' :: chars item ++ itemsChars items ++ [']']
  | object [] => ['\x7b', '\x7d']
  | object ((name, value) :: members) =>
    '\x7b' :: stringChars name ++ ':' :: chars value ++ membersChars members ++ ['\x7d']
termination_by structural v => v

/-- The text of items that follow others. -/
def itemsChars : List Json → List Char
  | [] => []
  | item :: items => ',' :: chars item ++ itemsChars items
termination_by structural items => items

/-- The text of members that follow others. -/
def membersChars : List (Option String × Json) → List Char
  | [] => []
  | (name, value) :: members =>
    ',' :: stringChars name ++ ':' :: chars value ++ membersChars members
termination_by structural members => members

end

/-- Writes a value. -/
def render (value : Json) : String := String.ofList (chars value)

end BeaconDuties.Json
