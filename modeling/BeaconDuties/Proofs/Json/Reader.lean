import BeaconDuties.Json.Printer
import BeaconDuties.Json.Reader
import Mathlib.Tactic.SplitIfs

/-!
JSON text is read as the value for which it is written.

Each reader takes what was written for one part and leaves what comes after it: strings whatever
they hold (`Json.Reader.exists_stringChars`), numbers if nothing follows that could belong to them
(`Json.Reader.Ended`), and by induction all values (`Json.value?_chars`). The text is longer
than values are deep, so that there is fuel enough.

A number that is not natural is kept by its spelling. Only a spelling that the reader takes as a
whole comes back (`Json.Number.Legible`).

What is written has no line break in it, since those in strings are written by their letters
(`Json.newline_not_mem_chars`). So a document can be told from its line
(`Json.read?_render_append`).
-/

namespace BeaconDuties.Json

theorem guard_of {p : Prop} [Decidable p] (h : p) : (guard p : Option Unit) = some () := if_pos h

namespace Reader

/-! ## Strings -/

theorem hexDigit?_digitChar {n : Nat} (h : n < 16) : hexDigit? (Nat.digitChar n) = some n := by
  have hall : ∀ n < 16, hexDigit? (Nat.digitChar n) = some n := by decide
  exact hall n h

/-- A character that is no surrogate stands for itself when it is written by its number. -/
theorem assemble?_unit {c : Char} (h : c.toNat < 0xd800) : ∀ {pieces : List Piece},
    assemble? (.unit c.toNat :: pieces) = (assemble? pieces).map (c :: ·) := by
  have hhigh : isHigh c.toNat = false := by
    rw [isHigh, decide_eq_false (Nat.not_le.2 h), Bool.false_and]
  have hlow : isLow c.toNat = false := by
    rw [isLow, decide_eq_false (by omega), Bool.false_and]
  intro pieces
  match pieces with
  | [] | .char _ :: _ | .unit _ :: _ => simp [assemble?, hhigh, hlow, Char.ofNat_toNat]

variable {c d letter : Char} {rest : List Char}

theorem pieces?_letter (h : letter ≠ 'u') (hc : escape? letter = some c) :
    pieces? ('\\' :: letter :: rest) =
      (pieces? rest).map fun (pieces, rest) => (.char c :: pieces, rest) := by
  rw [pieces?, hc]
  · cases pieces? rest <;> rfl
  · exact fun _ _ _ _ _ he => absurd he h

theorem pieces?_unit {code high : Nat} (hhigh : hexDigit? d = some high)
    (hlow : hexDigit? c = some code) :
    pieces? ('\\' :: 'u' :: '0' :: '0' :: d :: c :: rest) =
      (pieces? rest).map fun (pieces, rest) => (.unit (high * 16 + code) :: pieces, rest) := by
  have hzero : hexDigit? '0' = some 0 := by decide
  rw [pieces?, hzero, hhigh, hlow]
  cases pieces? rest <;> simp

theorem pieces?_plain (hquote : c ≠ '"') (hslash : c ≠ '\\') (h : 32 ≤ c.toNat) :
    pieces? (c :: rest) = (pieces? rest).map fun (pieces, rest) => (.char c :: pieces, rest) := by
  rw [pieces?, if_neg (Nat.not_lt.2 h)]
  · cases pieces? rest <;> rfl
  · exact hquote
  all_goals
    intros
    exact absurd ‹_› hslash

/-- What is written for a character is read as one piece that stands for it. -/
theorem exists_piece (c : Char) : ∃ piece,
    (∀ rest, pieces? (escaped c ++ rest) =
      (pieces? rest).map fun (pieces, rest) => (piece :: pieces, rest)) ∧
    ∀ pieces, assemble? (piece :: pieces) = (assemble? pieces).map (c :: ·) := by
  have hcode {n : Nat} (h : c.toNat = n) : Char.ofNat n = c := by rw [← h, Char.ofNat_toNat]
  rw [escaped]
  split_ifs with hquote hslash hnewline hreturn htab hback hfeed hlow hhigh
  · exact ⟨.char c, fun _ => pieces?_letter (by decide) (by rw [hquote]; rfl), fun _ => rfl⟩
  · exact ⟨.char c, fun _ => pieces?_letter (by decide) (by rw [hslash]; rfl), fun _ => rfl⟩
  · exact ⟨.char c, fun _ => pieces?_letter (by decide) (hnewline ▸ rfl), fun _ => rfl⟩
  · exact ⟨.char c, fun _ => pieces?_letter (by decide) (hreturn ▸ rfl), fun _ => rfl⟩
  · exact ⟨.char c, fun _ => pieces?_letter (by decide) (htab ▸ rfl), fun _ => rfl⟩
  · exact ⟨.char c, fun _ => pieces?_letter (by decide) (hcode hback ▸ rfl), fun _ => rfl⟩
  · exact ⟨.char c, fun _ => pieces?_letter (by decide) (hcode hfeed ▸ rfl), fun _ => rfl⟩
  · refine ⟨.unit c.toNat, fun _ => ?_, fun _ => assemble?_unit (by omega)⟩
    have hzero : hexDigit? '0' = some 0 := by decide
    refine (pieces?_unit hzero (hexDigit?_digitChar hlow)).trans ?_
    rw [Nat.zero_mul, Nat.zero_add]
    rfl
  · refine ⟨.unit c.toNat, fun _ => ?_, fun _ => assemble?_unit (by omega)⟩
    have hone : hexDigit? '1' = some 1 := by decide
    refine (pieces?_unit hone (hexDigit?_digitChar (by omega))).trans ?_
    rw [Nat.one_mul, Nat.add_sub_cancel' (by omega)]
    rfl
  · exact ⟨.char c, fun _ => pieces?_plain hquote hslash (by omega), fun _ => rfl⟩

theorem exists_pieces : ∀ {text : List Char}, ∃ pieces, assemble? pieces = some text ∧
    ∀ rest, pieces? (text.flatMap escaped ++ '"' :: rest) = some (pieces, rest)
  | [] => ⟨[], rfl, fun _ => by rw [List.flatMap_nil, List.nil_append, pieces?]⟩
  | c :: text => by
    obtain ⟨piece, hpiece, hc⟩ := exists_piece c
    obtain ⟨pieces, hpieces, hread⟩ := @exists_pieces text
    refine ⟨piece :: pieces, by rw [hc, hpieces, Option.map_some], fun rest => ?_⟩
    rw [List.flatMap_cons, List.append_assoc, hpiece, hread, Option.map_some]

/-- Every string is read as it was written, also one that is no text. -/
theorem exists_stringChars (text : Option String) : ∃ body, stringChars text = '"' :: body ∧
    ∀ rest, string? (body ++ rest) = some (text, rest) := by
  cases text with
  | none =>
    refine ⟨_, rfl, fun rest => ?_⟩
    simp [string?, pieces?, hexDigit?, assemble?, isHigh, isLow]
  | some text =>
    obtain ⟨pieces, hpieces, hread⟩ := @exists_pieces text.toList
    refine ⟨text.toList.flatMap escaped ++ ['"'], rfl, fun rest => ?_⟩
    rw [string?, List.append_assoc, List.singleton_append, hread]
    simp [hpieces]

/-! ## Numbers -/

/-- No character comes next that could belong to a number. -/
def Ended (rest : List Char) : Prop :=
  ∀ c ∈ rest.head?, c.isDigit = false ∧ c ≠ '.' ∧ c ≠ 'e' ∧ c ≠ 'E'

theorem ended_cons {c : Char} {rest : List Char}
    (h : c.isDigit = false ∧ c ≠ '.' ∧ c ≠ 'e' ∧ c ≠ 'E') : Ended (c :: rest) := by
  rintro _ ⟨⟩
  exact h

theorem fraction?_of_ended (h : Ended rest) : fraction? rest = some ([], rest) := by
  match rest with
  | [] => rfl
  | c :: rest =>
    rw [fraction?]
    rintro _ he
    exact (h c rfl).2.1 (List.cons.inj he).1

theorem exponent?_of_ended (h : Ended rest) : exponent? rest = some ([], rest) := by
  match rest with
  | [] => rfl
  | c :: rest => rw [exponent?, if_neg (not_or.2 (h c rfl).2.2)]

theorem digits?_append {digits : List Char} (hne : digits ≠ []) (hdigits : ∀ c ∈ digits, c.isDigit)
    (h : Ended rest) : digits? (digits ++ rest) = some (digits, rest) := by
  have hrest : rest.takeWhile Char.isDigit = [] ∧ rest.dropWhile Char.isDigit = rest := by
    match rest with
    | [] => exact ⟨rfl, rfl⟩
    | c :: rest => simp [(h c rfl).1]
  rw [digits?, List.takeWhile_append_of_pos hdigits, List.dropWhile_append_of_pos hdigits,
    hrest.1, hrest.2, List.append_nil]
  match digits with
  | [] => exact absurd rfl hne
  | _ :: _ => rfl

theorem digitsValue_toDigits {n : Nat} : digitsValue (Nat.toDigits 10 n) = n := by
  have h := Nat.ofDigitChars_ten_toDigits (n := n)
  rw [Nat.ofDigitChars] at h
  simpa only [digitsValue, Nat.mul_comm] using h

/-- The numeral of a number that is not zero does not start with a zero. -/
theorem head?_toDigits_ne {n : Nat} (hpos : 0 < n) : (Nat.toDigits 10 n).head? ≠ some '0' := by
  by_cases h : n < 10
  · have hall : ∀ n < 10, 0 < n → Nat.digitChar n ≠ '0' := by decide
    rw [Nat.toDigits_of_lt_base h]
    exact fun he => hall n h hpos (Option.some.inj he)
  · have hfront := head?_toDigits_ne (n := n / 10) (by omega)
    rw [Nat.toDigits_of_base_le (by decide) (by omega), List.head?_append]
    cases hhead : (Nat.toDigits 10 (n / 10)).head? with
    | none => exact absurd (List.head?_eq_none_iff.1 hhead) Nat.toDigits_ne_nil
    | some c => rwa [hhead] at hfront

theorem number?_toDigits {n : Nat} (h : Ended rest) :
    number? false (Nat.toDigits 10 n ++ rest) = some (.natural n, rest) := by
  have hdigits : ∀ c ∈ Nat.toDigits 10 n, c.isDigit :=
    fun c hc => Nat.isDigit_of_mem_toDigits (by decide) (by decide) hc
  have hzero : (Nat.toDigits 10 n).head? ≠ some '0' ∨ (Nat.toDigits 10 n).length = 1 := by
    rcases Nat.eq_zero_or_pos n with rfl | hpos
    · exact .inr rfl
    · exact .inl (head?_toDigits_ne hpos)
  have hwhole : whole? (Nat.toDigits 10 n ++ rest) = some (Nat.toDigits 10 n, rest) := by
    rw [whole?, digits?_append Nat.toDigits_ne_nil hdigits h, Option.bind_eq_bind, Option.bind_some]
    dsimp only
    rw [guard_of hzero]
    rfl
  rw [number?, hwhole]
  simp [fraction?_of_ended h, exponent?_of_ended h, digitsValue_toDigits]

/-! ## Values -/

theorem skipBlanks_cons (h : isBlank c = false) : skipBlanks (c :: rest) = c :: rest := by
  rw [skipBlanks, List.dropWhile_cons, h]
  rfl

theorem isBlank_of_isDigit (h : c.isDigit) : isBlank c = false := by
  cases hb : isBlank c with
  | false => rfl
  | true =>
    simp only [isBlank, Bool.or_eq_true, beq_iff_eq] at hb
    rcases hb with ((rfl | rfl) | rfl) | rfl <;> exact absurd h (by decide)

theorem value?_digit {fuel : Nat} (h : c.isDigit) : value? (fuel + 1) (c :: rest) =
    (number? false (c :: rest)).map fun (value, rest) => (.number value, rest) := by
  rw [value?, skipBlanks_cons (isBlank_of_isDigit h)]
  split <;> first | rfl | exact absurd (List.cons.inj ‹_›).1 (by rintro rfl; exact absurd h (by decide))

theorem value?_string {fuel : Nat} : value? (fuel + 1) ('"' :: rest) =
    (string? rest).map fun (text, rest) => (.string text, rest) := by
  rw [value?, skipBlanks_cons (by decide)]
  rfl

theorem value?_array {fuel : Nat} (hblank : isBlank c = false) (hne : c ≠ ']') :
    value? (fuel + 1) ('[' :: c :: rest) =
      (items? fuel (c :: rest)).map fun (items, rest) => (.array items, rest) := by
  have hbracket : skipBlanks ('[' :: c :: rest) = '[' :: c :: rest := skipBlanks_cons (by decide)
  simp [value?, hbracket, skipBlanks_cons hblank, hne]

theorem value?_object {fuel : Nat} : value? (fuel + 1) ('\x7b' :: '"' :: rest) =
    (members? fuel ('"' :: rest)).map fun (members, rest) => (.object members, rest) := by
  have hbrace : skipBlanks ('\x7b' :: '"' :: rest) = '\x7b' :: '"' :: rest :=
    skipBlanks_cons (by decide)
  have hquote : skipBlanks ('"' :: rest) = '"' :: rest := skipBlanks_cons (by decide)
  simp [value?, hbrace, hquote]

section

variable {fuel : Nat} {cs ds : List Char} {item value : Json} {name : Option String}

theorem items?_last (h : value? fuel cs = some (item, ']' :: rest)) :
    items? (fuel + 1) cs = some ([item], rest) := by
  have hblanks : skipBlanks (']' :: rest) = ']' :: rest := skipBlanks_cons (by decide)
  simp [items?, h, hblanks]

theorem items?_next (h : value? fuel cs = some (item, ',' :: rest)) : items? (fuel + 1) cs =
    (items? fuel rest).map fun (items, rest) => (item :: items, rest) := by
  have hblanks : skipBlanks (',' :: rest) = ',' :: rest := skipBlanks_cons (by decide)
  simp only [items?, h, hblanks, Option.bind_eq_bind, Option.bind_some]
  cases items? fuel rest <;> rfl

theorem members?_last (hname : string? cs = some (name, ':' :: ds))
    (h : value? fuel ds = some (value, '\x7d' :: rest)) :
    members? (fuel + 1) ('"' :: cs) = some ([(name, value)], rest) := by
  have hquote : skipBlanks ('"' :: cs) = '"' :: cs := skipBlanks_cons (by decide)
  have hcolon : skipBlanks (':' :: ds) = ':' :: ds := skipBlanks_cons (by decide)
  have hbrace : skipBlanks ('\x7d' :: rest) = '\x7d' :: rest := skipBlanks_cons (by decide)
  simp [members?, hquote, hname, hcolon, h, hbrace]

theorem members?_next (hname : string? cs = some (name, ':' :: ds))
    (h : value? fuel ds = some (value, ',' :: rest)) : members? (fuel + 1) ('"' :: cs) =
      (members? fuel rest).map fun (members, rest) => ((name, value) :: members, rest) := by
  have hquote : skipBlanks ('"' :: cs) = '"' :: cs := skipBlanks_cons (by decide)
  have hcolon : skipBlanks (':' :: ds) = ':' :: ds := skipBlanks_cons (by decide)
  have hcomma : skipBlanks (',' :: rest) = ',' :: rest := skipBlanks_cons (by decide)
  simp only [members?, hquote, hname, hcolon, h, hcomma, Option.bind_eq_bind, Option.bind_some]
  cases members? fuel rest <;> rfl

end

end Reader

open Reader

/-- What is written for a number begins as a number does, stands on one line, and is read as this
    number if nothing follows that could belong to it. -/
structure Number.Legible (value : Number) : Prop where
  first : ∃ c cs, value.chars = c :: cs ∧ (c = '-' ∨ c.isDigit)
  unbroken : '\n' ∉ value.chars
  read : ∀ {fuel rest}, Ended rest →
    value? (fuel + 1) (value.chars ++ rest) = some (.number value, rest)

theorem Number.legible_natural {n : Nat} : (Number.natural n).Legible := by
  have hdigits : ∀ c ∈ Nat.toDigits 10 n, c.isDigit :=
    fun c hc => Nat.isDigit_of_mem_toDigits (by decide) (by decide) hc
  obtain ⟨c, cs, hcs⟩ := List.exists_cons_of_ne_nil (Nat.toDigits_ne_nil (n := n) (b := 10))
  have hc := hdigits c (hcs ▸ List.mem_cons_self)
  refine ⟨⟨c, cs, hcs, .inr hc⟩, fun h => absurd (hdigits _ h) (by decide), fun {fuel rest} h => ?_⟩
  have hread := number?_toDigits (n := n) h
  rw [Number.chars, hcs, List.cons_append] at *
  rw [value?_digit hc, hread, Option.map_some]

mutual

/-- All numbers in a value are legible. -/
def Legible : Json → Prop
  | number value => value.Legible
  | array items => ItemsLegible items
  | object members => MembersLegible members
  | null | bool _ | string _ => True
termination_by structural v => v

/-- All numbers in the items of an array are legible. -/
def ItemsLegible : List Json → Prop
  | [] => True
  | item :: items => Legible item ∧ ItemsLegible items
termination_by structural items => items

/-- All numbers in the members of an object are legible. -/
def MembersLegible : List (Option String × Json) → Prop
  | [] => True
  | (_, value) :: members => Legible value ∧ MembersLegible members
termination_by structural members => members

end

/-- No value begins like a blank or the end of an array. -/
theorem exists_chars : ∀ {v : Json}, v.Legible →
    ∃ c cs, v.chars = c :: cs ∧ isBlank c = false ∧ c ≠ ']'
  | null, _ => ⟨_, _, rfl, by decide, by decide⟩
  | bool true, _ => ⟨_, _, rfl, by decide, by decide⟩
  | bool false, _ => ⟨_, _, rfl, by decide, by decide⟩
  | string text, _ => by
    obtain ⟨body, hbody, -⟩ := exists_stringChars text
    exact ⟨_, _, hbody, by decide, by decide⟩
  | array [], _ => ⟨_, _, rfl, by decide, by decide⟩
  | array (_ :: _), _ => ⟨_, _, rfl, by decide, by decide⟩
  | object [], _ => ⟨_, _, rfl, by decide, by decide⟩
  | object (_ :: _), _ => ⟨_, _, rfl, by decide, by decide⟩
  | number value, h => by
    obtain ⟨c, cs, hcs, rfl | hdigit⟩ := Number.Legible.first h
    · exact ⟨_, _, hcs, by decide, by decide⟩
    · refine ⟨c, cs, hcs, isBlank_of_isDigit hdigit, ?_⟩
      rintro rfl
      exact absurd hdigit (by decide)

mutual

/-- What is written for a value is read as this value. -/
theorem value?_chars : ∀ {v : Json}, v.Legible → ∀ (fuel : Nat) (rest : List Char),
    v.chars.length < fuel → Ended rest → value? fuel (v.chars ++ rest) = some (v, rest)
  | null, _, _ + 1, _, _, _ => rfl
  | bool true, _, _ + 1, _, _, _ => rfl
  | bool false, _, _ + 1, _, _, _ => rfl
  | array [], _, _ + 1, _, _, _ => rfl
  | object [], _, _ + 1, _, _, _ => rfl
  | number value, h, _ + 1, _, _, hrest => Number.Legible.read h hrest
  | string text, _, fuel + 1, rest, _, _ => by
    obtain ⟨body, hbody, hread⟩ := exists_stringChars text
    rw [chars, hbody, List.cons_append, value?_string, hread, Option.map_some]
  | array (item :: items), h, fuel + 1, rest, hlt, _ => by
    obtain ⟨c, cs, hcs, hblank, hne⟩ := exists_chars h.1
    have hlength : (chars item ++ itemsChars items).length + 1 < fuel := by
      simp only [chars, List.length_append, List.length_cons] at hlt ⊢
      omega
    have hread := items?_chars h.1 h.2 fuel rest hlength
    rw [hcs] at hread
    simp only [chars, hcs, List.cons_append, List.append_assoc, List.nil_append] at hread ⊢
    rw [value?_array hblank hne, hread, Option.map_some]
  | object ((name, value) :: members), h, fuel + 1, rest, hlt, _ => by
    obtain ⟨body, hbody, -⟩ := exists_stringChars name
    have hlength : (stringChars name ++ ':' :: chars value ++ membersChars members).length <
        fuel := by
      simp only [chars, List.length_append, List.length_cons] at hlt ⊢
      omega
    have hread := members?_chars name h.1 h.2 fuel rest hlength
    simp only [chars, hbody, List.cons_append, List.append_assoc, List.nil_append] at hread ⊢
    rw [value?_object, hread, Option.map_some]

/-- What is written for items is read as these items. -/
theorem items?_chars : ∀ {items : List Json} {item : Json}, Legible item → ItemsLegible items →
    ∀ (fuel : Nat) (rest : List Char), (chars item ++ itemsChars items).length + 1 < fuel →
      items? fuel (chars item ++ itemsChars items ++ ']' :: rest) = some (item :: items, rest)
  | [], item, h, _, fuel + 1, rest, hlt => by
    rw [itemsChars, List.append_nil] at hlt ⊢
    exact items?_last (value?_chars h fuel _ (by omega) (ended_cons (by decide)))
  | next :: items, item, h, hs, fuel + 1, rest, hlt => by
    simp only [itemsChars, List.length_append, List.length_cons] at hlt
    have hvalue := value?_chars h fuel (',' :: (chars next ++ itemsChars items ++ ']' :: rest))
      (by omega) (ended_cons (by decide))
    have hrest := items?_chars hs.1 hs.2 fuel rest (by rw [List.length_append]; omega)
    simp only [itemsChars, List.cons_append, List.append_assoc] at hvalue hrest ⊢
    rw [items?_next hvalue, hrest, Option.map_some]

/-- What is written for members is read as these members. -/
theorem members?_chars : ∀ {members : List (Option String × Json)} (name : Option String)
    {value : Json}, Legible value → MembersLegible members → ∀ (fuel : Nat) (rest : List Char),
    (stringChars name ++ ':' :: chars value ++ membersChars members).length < fuel →
      members? fuel (stringChars name ++ ':' :: chars value ++ membersChars members ++
        '\x7d' :: rest) = some ((name, value) :: members, rest)
  | [], name, value, h, _, fuel + 1, rest, hlt => by
    obtain ⟨body, hbody, hname⟩ := exists_stringChars name
    simp only [membersChars, hbody, List.length_append, List.length_cons] at hlt
    have hvalue := value?_chars h fuel ('\x7d' :: rest) (by omega) (ended_cons (by decide))
    simp only [membersChars, hbody, List.cons_append, List.append_assoc, List.nil_append]
    exact members?_last (hname _) hvalue
  | (next, further) :: members, name, value, h, hs, fuel + 1, rest, hlt => by
    obtain ⟨body, hbody, hname⟩ := exists_stringChars name
    simp only [membersChars, hbody, List.length_append, List.length_cons] at hlt
    have hvalue := value?_chars h fuel
      (',' :: (stringChars next ++ ':' :: chars further ++ membersChars members ++ '\x7d' :: rest))
      (by omega) (ended_cons (by decide))
    have hlength : (stringChars next ++ ':' :: chars further ++ membersChars members).length <
        fuel := by
      simp only [List.length_append, List.length_cons]
      omega
    have hrest := members?_chars next hs.1 hs.2 fuel rest hlength
    simp only [membersChars, hbody, List.cons_append, List.append_assoc] at hvalue hrest ⊢
    rw [members?_next (hname _) hvalue, hrest, Option.map_some]

end

theorem ended_of_isBlank {blanks : List Char} (h : ∀ c ∈ blanks, isBlank c) : Ended blanks := by
  intro c hc
  have hblank := h c (List.mem_of_mem_head? hc)
  simp only [isBlank, Bool.or_eq_true, beq_iff_eq] at hblank
  rcases hblank with ((rfl | rfl) | rfl) | rfl <;> decide

/-- Blanks may stand after a document. -/
theorem read?_render_append {v : Json} (h : v.Legible) {blanks : String}
    (hblanks : ∀ c ∈ blanks.toList, isBlank c) : read? (v.render ++ blanks) = some v := by
  have hread := value?_chars h ((v.chars ++ blanks.toList).length + 1) blanks.toList
    (by rw [List.length_append]; omega) (ended_of_isBlank hblanks)
  have hrest : skipBlanks (blanks.toList ++ []) = skipBlanks [] :=
    List.dropWhile_append_of_pos hblanks
  rw [List.append_nil] at hrest
  rw [read?, render, String.toList_append, String.toList_ofList]
  dsimp only
  rw [hread, Option.bind_eq_bind, Option.bind_some, hrest]
  rfl

/-- **A document that is written is read as the value for which it is written.** -/
theorem read?_render {v : Json} (h : v.Legible) : read? v.render = some v := by
  have hread := read?_render_append h (nofun : ∀ c ∈ "".toList, isBlank c)
  rwa [String.append_empty] at hread

/-! ## Lines -/

theorem newline_not_mem_escaped (c : Char) : '\n' ∉ escaped c := by
  rw [escaped]
  split_ifs with hquote hslash hnewline hreturn htab hback hfeed hlow hhigh
  · decide
  · decide
  · decide
  · decide
  · decide
  · decide
  · decide
  · simp
  · simp
  · simpa using Ne.symm hnewline

theorem newline_not_mem_stringChars {text : Option String} : '\n' ∉ stringChars text := by
  cases text with
  | none => decide
  | some text =>
    rw [stringChars, List.mem_append, List.mem_cons, List.mem_flatMap]
    rintro ((hquote | ⟨c, -, hc⟩) | hquote)
    · exact absurd hquote (by decide)
    · exact newline_not_mem_escaped c hc
    · exact absurd hquote (by decide)

mutual

/-- A document stands on one line. -/
theorem newline_not_mem_chars : ∀ {v : Json}, v.Legible → '\n' ∉ v.chars
  | null, _ => by decide
  | bool true, _ => by decide
  | bool false, _ => by decide
  | number _, h => Number.Legible.unbroken h
  | string _, _ => newline_not_mem_stringChars
  | array [], _ => by decide
  | array (_ :: _), h => by
    simp [chars, newline_not_mem_chars h.1, newline_not_mem_itemsChars h.2]
  | object [], _ => by decide
  | object ((_, _) :: _), h => by
    simp [chars, newline_not_mem_stringChars, newline_not_mem_chars h.1,
      newline_not_mem_membersChars h.2]

theorem newline_not_mem_itemsChars : ∀ {items : List Json}, ItemsLegible items →
    '\n' ∉ itemsChars items
  | [], _ => by decide
  | _ :: _, h => by
    simp [itemsChars, newline_not_mem_chars h.1, newline_not_mem_itemsChars h.2]

theorem newline_not_mem_membersChars : ∀ {members : List (Option String × Json)},
    MembersLegible members → '\n' ∉ membersChars members
  | [], _ => by decide
  | (_, _) :: _, h => by
    simp [membersChars, newline_not_mem_stringChars, newline_not_mem_chars h.1,
      newline_not_mem_membersChars h.2]

end

end BeaconDuties.Json
