import BeaconDuties.Text.Unprintable

/-!
Text between quotation marks, as messages show what a person typed.

The mark and the backslash are preceded by a backslash inside. Tab, line feed, carriage return and
the null character have short names, and every other unprintable character is written by its number
(`escaped`). So a quoted text is one line, and shows every character that it is made of.

Texts stand between double marks (`quoted`) and single characters between single ones
(`quotedChar`).
-/

namespace BeaconDuties.Text

/-- The digits of a code point in base sixteen. -/
def codeDigits (code : Nat) : List Char := Nat.toDigits 16 code

/-- How a character is written between two quotation marks of the given kind. -/
def escaped (mark c : Char) : List Char :=
  if c = mark then ['\\', mark]
  else if c = '\\' then ['\\', '\\']
  else if c = '\t' then ['\\', 't']
  else if c = '\n' then ['\\', 'n']
  else if c = '\r' then ['\\', 'r']
  else if c.toNat = 0 then ['\\', '0']
  else if isUnprintable c then '\\' :: 'u' :: '\x7b' :: codeDigits c.toNat ++ ['\x7d']
  else [c]

/-- A text between double quotation marks. -/
def quoted (text : String) : String :=
  String.ofList ('"' :: text.toList.flatMap (escaped '"') ++ ['"'])

/-- A character between single quotation marks. -/
def quotedChar (c : Char) : String :=
  String.ofList ('\'' :: escaped '\'' c ++ ['\''])

end BeaconDuties.Text
