import TextCoordinates.Json.Printer
import TextCoordinates.Json.Reader

/-!
# Reading numbers back

A written number is a sign, digits without leading zeros and, for a decimal, an
exponent.  The reader takes as many characters as could belong to a number, so a
number is read back in front of every text that does not go on with it.
-/

namespace TextCoordinates

namespace Text
namespace Decimal

theorem exists_ofNat_eq_cons (n : Nat) :
    ∃ c digits, ofNat n = c :: digits ∧ c.isDigit = true := by
  rcases List.exists_cons_of_ne_nil (ofNat_ne_nil n) with ⟨c, digits, hdigits⟩
  refine ⟨c, digits, hdigits, isDigit_of_mem_ofNat (n := n) ?_⟩
  rw [hdigits]
  exact List.mem_cons_self

/-- All digits but the last one are those of a tenth, which is not zero either. -/
theorem head?_ofNat_ne_zero {n : Nat} (h : 0 < n) : (ofNat n).head? ≠ some '0' := by
  induction n using Nat.strongRecOn with
  | ind n ih =>
      unfold ofNat at ih ⊢
      by_cases hlt : n < 10
      · have hdigit : ∀ n < 10, 0 < n → n.digitChar ≠ '0' := by
          decide
        rw [Nat.toDigits_of_lt_base hlt]
        intro hhead
        exact hdigit n hlt h (Option.some.inj hhead)
      · have hle : 10 ≤ n := Nat.le_of_not_lt hlt
        have hhead := ih (n / 10) (by lia) (by lia)
        have hne : Nat.toDigits 10 (n / 10) ≠ [] := Nat.toDigits_ne_nil
        rcases List.exists_cons_of_ne_nil hne with ⟨c, digits, hdigits⟩
        rw [hdigits] at hhead
        rw [Nat.toDigits_of_base_le (by decide) hle, hdigits]
        exact hhead

end Decimal
end Text

namespace Json

open Text.Decimal (ofNat ofInt)

/-!
## Digits
-/

/-- A text that does not go on with a number in front of it. -/
def EndsNumber (rest : Text) : Prop :=
  ∀ c, rest.head? = some c → c.isDigit = false ∧ c ≠ '.' ∧ c ≠ 'e' ∧ c ≠ 'E'

theorem endsNumber_nil : EndsNumber [] := by
  intro c hc
  cases hc

theorem endsNumber_cons {c : Char} (h : c.isDigit = false ∧ c ≠ '.' ∧ c ≠ 'e' ∧ c ≠ 'E')
    (rest : Text) : EndsNumber (c :: rest) := by
  intro first hfirst
  cases hfirst
  exact h

theorem readDigits_ofNat (n : Nat) {rest : Text}
    (hrest : ∀ c, rest.head? = some c → c.isDigit = false) :
    readDigits (ofNat n ++ rest) = some (ofNat n, rest) := by
  have hdigits : ∀ c ∈ ofNat n, c.isDigit = true := by
    intro c hc
    exact Text.Decimal.isDigit_of_mem_ofNat hc
  have hstop : rest.takeWhile Char.isDigit = [] ∧ rest.dropWhile Char.isDigit = rest := by
    cases rest with
    | nil =>
        exact ⟨rfl, rfl⟩
    | cons c rest =>
        have hc := hrest c rfl
        simp [hc]
  unfold readDigits
  rw [List.takeWhile_append_of_pos hdigits, List.dropWhile_append_of_pos hdigits, hstop.left,
    hstop.right, List.append_nil]
  exact if_neg (Text.Decimal.ofNat_ne_nil n)

/-- A written number has no leading zero. -/
theorem readWhole_ofNat (n : Nat) {rest : Text}
    (hrest : ∀ c, rest.head? = some c → c.isDigit = false) :
    readWhole (ofNat n ++ rest) = some (ofNat n, rest) := by
  have hlead : ¬ ((ofNat n).head? = some '0' ∧ ofNat n ≠ ['0']) := by
    intro h
    rcases Nat.eq_zero_or_pos n with hzero | hpos
    · exact h.right (by rw [hzero]; rfl)
    · exact Text.Decimal.head?_ofNat_ne_zero hpos h.left
  unfold readWhole
  rw [readDigits_ofNat n hrest]
  exact if_neg hlead

/-!
## Signs
-/

theorem ofInt_eq_sign_append (i : Int) :
    ofInt i = sign (decide (i < 0)) ++ ofNat i.natAbs := by
  cases i with
  | ofNat n =>
      have hsign : decide (Int.ofNat n < 0) = false := by
        simp
      rw [hsign]
      rfl
  | negSucc n =>
      have hsign : decide (Int.negSucc n < 0) = true := by
        simp [Int.negSucc_lt_zero]
      rw [hsign]
      rfl

theorem signed_natAbs (i : Int) : signed (decide (i < 0)) (ofNat i.natAbs) = i := by
  have hread : Nat.ofDigitChars 10 (ofNat i.natAbs) 0 = i.natAbs :=
    Nat.ofDigitChars_ten_toDigits
  unfold signed
  rw [hread]
  by_cases hneg : i < 0
  · simp only [hneg, decide_true, if_true]
    lia
  · simp only [hneg, decide_false, Bool.false_eq_true, if_false]
    lia

theorem readSign_ofInt (i : Int) (rest : Text) :
    readSign (ofInt i ++ rest) = (decide (i < 0), ofNat i.natAbs ++ rest) := by
  rcases Text.Decimal.exists_ofNat_eq_cons i.natAbs with ⟨c, digits, hdigits, hc⟩
  rw [ofInt_eq_sign_append, hdigits]
  cases decide (i < 0) with
  | true =>
      rfl
  | false =>
      show readSign (c :: (digits ++ rest)) = (false, c :: (digits ++ rest))
      unfold readSign
      split
      · rename_i heq
        cases heq
        exact absurd hc (by decide)
      · rename_i heq
        cases heq
        exact absurd hc (by decide)
      · rfl

/-!
## Numbers
-/

theorem readExponent_ofInt (i : Int) {rest : Text}
    (hrest : ∀ c, rest.head? = some c → c.isDigit = false) :
    readExponent ('e' :: (ofInt i ++ rest)) = some (some i, rest) := by
  have hdigits := readDigits_ofNat i.natAbs hrest
  simp [readExponent, readSign_ofInt, hdigits, signed_natAbs]

theorem readFraction_of_head?_ne {rest : Text} (h : rest.head? ≠ some '.') :
    readFraction rest = some ([], rest) := by
  unfold readFraction
  split
  · exact absurd rfl h
  · rfl

theorem readExponent_of_endsNumber {rest : Text} (h : EndsNumber rest) :
    readExponent rest = some (none, rest) := by
  cases rest with
  | nil =>
      rfl
  | cons c rest =>
      rcases h c rfl with ⟨_hdigit, _hpoint, hlower, hupper⟩
      exact if_neg (not_or.mpr ⟨hlower, hupper⟩)

/-- What is read of a number behind its sign. -/
def readUnsigned (negative : Bool) (text : Text) : Option (Json × Text) := do
  let (whole, rest) ← readWhole text
  let (fraction, rest) ← readFraction rest
  let (exponent, rest) ← readExponent rest
  match fraction, exponent with
  | [], none => pure (int (signed negative whole), rest)
  | _, _ =>
      pure (decimal negative (Nat.ofDigitChars 10 (whole ++ fraction) 0)
        (exponent.getD 0 - fraction.length), rest)

theorem readNumber_sign_append (negative : Bool) (n : Nat) (rest : Text) :
    readNumber (sign negative ++ (ofNat n ++ rest)) = readUnsigned negative (ofNat n ++ rest) := by
  rcases Text.Decimal.exists_ofNat_eq_cons n with ⟨c, digits, hdigits, hc⟩
  rw [hdigits]
  cases negative with
  | true =>
      rfl
  | false =>
      show readNumber (c :: (digits ++ rest)) = readUnsigned false (c :: (digits ++ rest))
      unfold readNumber
      split
      rename_i negative body hsign
      split at hsign
      · rename_i heq
        cases heq
        exact absurd hc (by decide)
      · cases hsign
        rfl

theorem readUnsigned_int (negative : Bool) (n : Nat) {rest : Text} (h : EndsNumber rest) :
    readUnsigned negative (ofNat n ++ rest) = some (int (signed negative (ofNat n)), rest) := by
  have hwhole := readWhole_ofNat n fun c hc => (h c hc).1
  have hfraction := readFraction_of_head?_ne fun hpoint => (h '.' hpoint).2.1 rfl
  simp [readUnsigned, hwhole, hfraction, readExponent_of_endsNumber h]

theorem readUnsigned_decimal (negative : Bool) (n : Nat) (exponent : Int) {rest : Text}
    (h : EndsNumber rest) :
    readUnsigned negative (ofNat n ++ ('e' :: (ofInt exponent ++ rest))) =
      some (decimal negative n exponent, rest) := by
  have hmark : ∀ c, ('e' :: (ofInt exponent ++ rest)).head? = some c → c.isDigit = false := by
    intro c hc
    cases hc
    decide
  have hpoint : ('e' :: (ofInt exponent ++ rest)).head? ≠ some '.' := by
    intro hc
    cases hc
  have hread : Nat.ofDigitChars 10 (ofNat n) 0 = n := Nat.ofDigitChars_ten_toDigits
  have hwhole := readWhole_ofNat n hmark
  have hfraction := readFraction_of_head?_ne hpoint
  have hexponent := readExponent_ofInt exponent fun c hc => (h c hc).1
  simp [readUnsigned, hwhole, hfraction, hexponent, hread]

theorem readNumber_int (i : Int) {rest : Text} (h : EndsNumber rest) :
    readNumber (ofInt i ++ rest) = some (int i, rest) := by
  rw [ofInt_eq_sign_append, List.append_assoc, readNumber_sign_append, readUnsigned_int _ _ h,
    signed_natAbs]

theorem readNumber_decimal (negative : Bool) (mantissa : Nat) (exponent : Int) {rest : Text}
    (h : EndsNumber rest) :
    readNumber (sign negative ++ ofNat mantissa ++ 'e' :: ofInt exponent ++ rest) =
      some (decimal negative mantissa exponent, rest) := by
  rw [List.append_assoc, List.append_assoc, List.cons_append, readNumber_sign_append,
    readUnsigned_decimal _ _ _ h]

end Json
end TextCoordinates
