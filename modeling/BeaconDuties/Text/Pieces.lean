/-!
Texts in pieces.

A separator ends a piece and begins the next one, so there is always one piece more than there are
separators (`pieces`).
-/

namespace BeaconDuties.Text

/-- The pieces of a text between separators. -/
def pieces (isSeparator : Char → Bool) : List Char → List (List Char)
  | [] => [[]]
  | c :: rest =>
    match pieces isSeparator rest with
    | [] => [[c]]
    | piece :: others => if isSeparator c then [] :: piece :: others else (c :: piece) :: others

end BeaconDuties.Text
