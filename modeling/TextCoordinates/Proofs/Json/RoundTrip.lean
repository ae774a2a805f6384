import TextCoordinates.Proofs.Json.Number

/-!
# Reading values back

Every value is read back from its written form.  The reader descends one level for
each item and member, and each of them takes up at least one character, so the bound
on the descent is never met.
-/

namespace TextCoordinates
namespace Json

open Text.Decimal (ofNat ofInt)

/-!
## Blanks
-/

theorem skipBlanks_cons {c : Char} (h : isBlank c = false) (text : Text) :
    skipBlanks (c :: text) = c :: text := by
  simp [skipBlanks, h]

theorem skipBlanks_blank (text : Text) : skipBlanks (' ' :: text) = skipBlanks text := by
  rfl

theorem readValue_blank (fuel : Nat) (text : Text) :
    readValue fuel (' ' :: text) = readValue fuel text := by
  cases fuel with
  | zero =>
      rfl
  | succ fuel =>
      rw [readValue, readValue, skipBlanks_blank]

theorem readItems_blank (fuel : Nat) (text : Text) :
    readItems fuel (' ' :: text) = readItems fuel text := by
  cases fuel with
  | zero =>
      rfl
  | succ fuel =>
      rw [readItems, readItems, readValue_blank]

theorem readMembers_blank (fuel : Nat) (text : Text) :
    readMembers fuel (' ' :: text) = readMembers fuel text := by
  cases fuel with
  | zero =>
      rfl
  | succ fuel =>
      rw [readMembers, readMembers, skipBlanks_blank]

/-!
## One piece

What the reader does is decided by the first character.
-/

/-- The characters with which a written number begins. -/
def StartsNumber (c : Char) : Prop :=
  c.isDigit = true ∨ c = '-'

instance : DecidablePred StartsNumber := fun c =>
  inferInstanceAs (Decidable (c.isDigit = true ∨ c = '-'))

theorem StartsNumber.isBlank_eq_false {c : Char} (h : StartsNumber c) : isBlank c = false := by
  rw [Bool.eq_false_iff]
  intro hblank
  simp only [isBlank, Bool.or_eq_true, decide_eq_true_eq] at hblank
  rcases hblank with ((rfl | rfl) | rfl) | rfl
  all_goals exact absurd h (by decide)

theorem exists_sign_append_ofNat_eq_cons (negative : Bool) (n : Nat) :
    ∃ c text, sign negative ++ ofNat n = c :: text ∧ StartsNumber c := by
  cases negative with
  | true =>
      exact ⟨'-', ofNat n, rfl, Or.inr rfl⟩
  | false =>
      rcases Text.Decimal.exists_ofNat_eq_cons n with ⟨c, digits, hdigits, hc⟩
      exact ⟨c, digits, hdigits, Or.inl hc⟩

theorem readValue_number {c : Char} (h : StartsNumber c) (fuel : Nat) (text : Text) :
    readValue (fuel + 1) (c :: text) = readNumber (c :: text) := by
  rw [readValue, skipBlanks_cons h.isBlank_eq_false]
  split
  case h_7 =>
      rfl
  all_goals
    rename_i heq
    cases heq
    exact absurd h (by decide)

theorem readValue_string (fuel : Nat) (text rest : Text) :
    readValue (fuel + 1) (Quoted.write text ++ rest) = some (string text, rest) := by
  have hread := Quoted.read_escapeAll text rest
  simp [readValue, Quoted.write, skipBlanks, isBlank, hread]

theorem readValue_array {fuel : Nat} {c : Char} {body rest : Text} {items : List Json}
    (hc : isBlank c = false ∧ c ≠ ']')
    (h : readItems fuel (c :: body) = some (items, rest)) :
    readValue (fuel + 1) ('[' :: c :: body) = some (array items, rest) := by
  have hopen : skipBlanks ('[' :: c :: body) = '[' :: c :: body := rfl
  rw [readValue, hopen]
  simp [skipBlanks_cons hc.left, hc.right, h]

theorem readValue_object {fuel : Nat} {body rest : Text} {members : List (Text × Json)}
    (h : readMembers fuel ('"' :: body) = some (members, rest)) :
    readValue (fuel + 1) ('{' :: '"' :: body) = some (object members, rest) := by
  have hopen : skipBlanks ('{' :: '"' :: body) = '{' :: '"' :: body := rfl
  have hquote : skipBlanks ('"' :: body) = '"' :: body := rfl
  rw [readValue, hopen]
  simp [hquote, h]

theorem readItems_last {fuel : Nat} {body rest : Text} {item : Json}
    (h : readValue fuel body = some (item, ']' :: rest)) :
    readItems (fuel + 1) body = some ([item], rest) := by
  have hclose : skipBlanks (']' :: rest) = ']' :: rest := rfl
  simp [readItems, h, hclose]

theorem readItems_next {fuel : Nat} {body behind rest : Text} {item : Json} {items : List Json}
    (h : readValue fuel body = some (item, ',' :: behind))
    (hnext : readItems fuel behind = some (items, rest)) :
    readItems (fuel + 1) body = some (item :: items, rest) := by
  have hcomma : skipBlanks (',' :: behind) = ',' :: behind := rfl
  simp [readItems, h, hcomma, hnext]

theorem write_append (text rest : Text) :
    Quoted.write text ++ rest = '"' :: (Quoted.escapeAll text ++ '"' :: rest) := by
  simp [Quoted.write]

theorem readMembers_last {fuel : Nat} {name body rest : Text} {value : Json}
    (h : readValue fuel body = some (value, '}' :: rest)) :
    readMembers (fuel + 1) (Quoted.write name ++ (colon ++ body)) =
      some ([(name, value)], rest) := by
  have hopen (text : Text) : skipBlanks ('"' :: text) = '"' :: text := rfl
  have hcolon : skipBlanks (colon ++ body) = ':' :: ' ' :: body := rfl
  have hclose : skipBlanks ('}' :: rest) = '}' :: rest := rfl
  rw [write_append, readMembers, hopen]
  simp [Quoted.read_escapeAll, hcolon, readValue_blank, h, hclose]

theorem readMembers_next {fuel : Nat} {name body behind rest : Text} {value : Json}
    {members : List (Text × Json)}
    (h : readValue fuel body = some (value, ',' :: behind))
    (hnext : readMembers fuel behind = some (members, rest)) :
    readMembers (fuel + 1) (Quoted.write name ++ (colon ++ body)) =
      some ((name, value) :: members, rest) := by
  have hopen (text : Text) : skipBlanks ('"' :: text) = '"' :: text := rfl
  have hcolon : skipBlanks (colon ++ body) = ':' :: ' ' :: body := rfl
  have hcomma : skipBlanks (',' :: behind) = ',' :: behind := rfl
  rw [write_append, readMembers, hopen]
  simp [Quoted.read_escapeAll, hcolon, readValue_blank, h, hcomma, hnext]

/-!
## Whole values

A value is read back in front of every text that does not go on with a number.
The descent is bounded by twice the length, as an item takes one step down and the
value in it another.  The brackets around items are two characters, enough for the step
from the array to its items.  The comma behind an item ends it even if it is a number,
and the reader skips the blank behind the comma.
-/

@[simp] theorem length_comma : comma.length = 2 := by
  rfl

theorem exists_print_eq_cons (value : Json) :
    ∃ c text, print value = c :: text ∧ isBlank c = false ∧ c ≠ ']' := by
  have hnumber (negative : Bool) (n : Nat) (rest : Text) :
      ∃ c text, sign negative ++ ofNat n ++ rest = c :: text ∧ isBlank c = false ∧ c ≠ ']' := by
    rcases exists_sign_append_ofNat_eq_cons negative n with ⟨c, text, htext, hc⟩
    refine ⟨c, text ++ rest, by rw [htext, List.cons_append], hc.isBlank_eq_false, ?_⟩
    rintro rfl
    exact absurd hc (by decide)
  cases value with
  | null =>
      exact ⟨'n', _, by rw [print]; rfl, rfl, by decide⟩
  | bool value =>
      cases value with
      | false =>
          exact ⟨'f', _, by rw [print]; rfl, rfl, by decide⟩
      | true =>
          exact ⟨'t', _, by rw [print]; rfl, rfl, by decide⟩
  | int value =>
      rw [print, ofInt_eq_sign_append]
      simpa using hnumber (decide (value < 0)) value.natAbs []
  | decimal negative mantissa exponent =>
      rw [print]
      exact hnumber negative mantissa _
  | string text =>
      exact ⟨'"', _, by rw [print]; rfl, rfl, by decide⟩
  | array items =>
      exact ⟨'[', _, by rw [print]; rfl, rfl, by decide⟩
  | object members =>
      exact ⟨'{', _, by rw [print]; rfl, rfl, by decide⟩

theorem exists_printItems_eq_cons (item : Json) (items : List Json) :
    ∃ c text, printItems (item :: items) = c :: text ∧ isBlank c = false ∧ c ≠ ']' := by
  rcases exists_print_eq_cons item with ⟨c, text, htext, hc⟩
  cases items with
  | nil =>
      exact ⟨c, text, by simp [htext], hc⟩
  | cons next items =>
      exact ⟨c, text ++ comma ++ printItems (next :: items),
        by simp [htext], hc⟩

theorem exists_printMembers_eq_cons (member : Text × Json) (members : List (Text × Json)) :
    ∃ text, printMembers (member :: members) = '"' :: text := by
  cases members with
  | nil =>
      exact ⟨_, by rw [printMembers_singleton]; rfl⟩
  | cons next members =>
      exact ⟨_, by rw [printMembers_cons_cons]; rfl⟩

theorem readValue_int (fuel : Nat) (value : Int) {rest : Text} (h : EndsNumber rest) :
    readValue (fuel + 1) (ofInt value ++ rest) = some (int value, rest) := by
  rcases exists_sign_append_ofNat_eq_cons (decide (value < 0)) value.natAbs with
    ⟨c, text, htext, hc⟩
  have hread := readNumber_int value h
  rw [ofInt_eq_sign_append, htext] at hread ⊢
  rw [List.cons_append, readValue_number hc, ← List.cons_append, hread]

theorem readValue_decimal (fuel : Nat) (negative : Bool) (mantissa : Nat) (exponent : Int)
    {rest : Text} (h : EndsNumber rest) :
    readValue (fuel + 1) (sign negative ++ ofNat mantissa ++ 'e' :: ofInt exponent ++ rest) =
      some (decimal negative mantissa exponent, rest) := by
  rcases exists_sign_append_ofNat_eq_cons negative mantissa with ⟨c, text, htext, hc⟩
  have hread := readNumber_decimal negative mantissa exponent h
  rw [htext] at hread ⊢
  simp only [List.cons_append] at hread ⊢
  rw [readValue_number hc, hread]

mutual

theorem readValue_print (value : Json) {fuel : Nat} {rest : Text}
    (hfuel : 2 * (print value).length ≤ fuel) (hrest : EndsNumber rest) :
    readValue fuel (print value ++ rest) = some (value, rest) := by
  obtain ⟨fuel, rfl⟩ : ∃ below, fuel = below + 1 := by
    rcases exists_print_eq_cons value with ⟨c, text, htext, _⟩
    rw [htext, List.length_cons] at hfuel
    exact ⟨fuel - 1, by lia⟩
  cases value with
  | null =>
      rw [print]
      rfl
  | bool value =>
      cases value with
      | false =>
          rw [print]
          rfl
      | true =>
          rw [print]
          rfl
  | int value =>
      rw [print]
      exact readValue_int fuel value hrest
  | decimal negative mantissa exponent =>
      rw [print]
      exact readValue_decimal fuel negative mantissa exponent hrest
  | string text =>
      rw [print]
      exact readValue_string fuel text rest
  | array items =>
      cases items with
      | nil =>
          rw [print, printItems_nil]
          rfl
      | cons item items =>
          rcases exists_printItems_eq_cons item items with ⟨c, text, htext, hc⟩
          rw [print, List.length_append, List.length_cons, List.length_singleton] at hfuel
          have hitems : readItems fuel (printItems (item :: items) ++ ']' :: rest) =
              some (item :: items, rest) :=
            readItems_print (item :: items) (List.cons_ne_nil item items) (by lia)
          rw [print, List.append_assoc, List.cons_append]
          rw [htext] at hitems ⊢
          exact readValue_array hc hitems
  | object members =>
      cases members with
      | nil =>
          rw [print, printMembers_nil]
          rfl
      | cons member members =>
          rcases exists_printMembers_eq_cons member members with ⟨text, htext⟩
          rw [print, List.length_append, List.length_cons, List.length_singleton] at hfuel
          have hmembers : readMembers fuel (printMembers (member :: members) ++ '}' :: rest) =
              some (member :: members, rest) :=
            readMembers_print (member :: members) (List.cons_ne_nil member members) (by lia)
          rw [print, List.append_assoc, List.cons_append]
          rw [htext] at hmembers ⊢
          exact readValue_object hmembers

theorem readItems_print (items : List Json) {fuel : Nat} {rest : Text} (hne : items ≠ [])
    (hfuel : 2 * (printItems items).length < fuel) :
    readItems fuel (printItems items ++ ']' :: rest) = some (items, rest) := by
  obtain ⟨fuel, rfl⟩ : ∃ below, fuel = below + 1 := ⟨fuel - 1, by lia⟩
  match items with
  | [] =>
      exact absurd rfl hne
  | [item] =>
      rw [printItems_singleton] at hfuel ⊢
      exact readItems_last (readValue_print item (by lia) (endsNumber_cons (by decide) rest))
  | item :: next :: items =>
      simp only [printItems_cons_cons, List.length_append, length_comma, List.append_assoc]
        at hfuel ⊢
      have hitems : readItems fuel (' ' :: (printItems (next :: items) ++ ']' :: rest)) =
          some (next :: items, rest) := by
        rw [readItems_blank]
        exact readItems_print (next :: items) (List.cons_ne_nil next items) (by lia)
      exact readItems_next (readValue_print item (by lia) (endsNumber_cons (by decide) _)) hitems

theorem readMembers_print (members : List (Text × Json)) {fuel : Nat} {rest : Text}
    (hne : members ≠ []) (hfuel : 2 * (printMembers members).length < fuel) :
    readMembers fuel (printMembers members ++ '}' :: rest) = some (members, rest) := by
  obtain ⟨fuel, rfl⟩ : ∃ below, fuel = below + 1 := ⟨fuel - 1, by lia⟩
  match members with
  | [] =>
      exact absurd rfl hne
  | [(name, value)] =>
      simp only [printMembers_singleton, List.length_append, List.append_assoc] at hfuel ⊢
      exact readMembers_last (readValue_print value (by lia) (endsNumber_cons (by decide) rest))
  | (name, value) :: next :: members =>
      simp only [printMembers_cons_cons, List.length_append, length_comma, List.append_assoc]
        at hfuel ⊢
      have hmembers : readMembers fuel (' ' :: (printMembers (next :: members) ++ '}' :: rest)) =
          some (next :: members, rest) := by
        rw [readMembers_blank]
        exact readMembers_print (next :: members) (List.cons_ne_nil next members) (by lia)
      exact readMembers_next (readValue_print value (by lia) (endsNumber_cons (by decide) _))
        hmembers

end

theorem read_print (value : Json) : read (print value) = some value := by
  have hread : readValue (2 * (print value).length + 2) (print value ++ []) = some (value, []) :=
    readValue_print value (by lia) endsNumber_nil
  rw [List.append_nil] at hread
  unfold read
  rw [hread]
  show (if skipBlanks [] = [] then some value else none) = some value
  exact if_pos rfl

theorem print_injective {a b : Json} (h : print a = print b) : a = b := by
  have hread := read_print a
  rw [h, read_print b] at hread
  exact (Option.some.inj hread).symm

end Json
end TextCoordinates
