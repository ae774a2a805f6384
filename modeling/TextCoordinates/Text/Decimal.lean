import TextCoordinates.Text.Basic

/-!
# Decimal numbers

Integers of any size are written in base ten without leading zeros, a negative
one with a minus sign in front.  The readers accept every run of decimal digits,
leading zeros included, and undo the writers.
-/

namespace TextCoordinates
namespace Text
namespace Decimal

def ofNat (n : Nat) : Text :=
  Nat.toDigits 10 n

def ofInt : Int → Text
  | .ofNat n => ofNat n
  | .negSucc n => '-' :: ofNat (n + 1)

/-- An empty text is no number, and neither is one with a sign. -/
def toNat? (digits : Text) : Option Nat :=
  if digits ≠ [] ∧ digits.all Char.isDigit then
    some (Nat.ofDigitChars 10 digits 0)
  else
    none

def toInt? : Text → Option Int
  | '-' :: digits => (toNat? digits).map fun n => -(n : Int)
  | digits => (toNat? digits).map fun n => (n : Int)

/-!
## Reading back

Every character of a written number is a digit, and reading restores the number.
-/

theorem ofNat_ne_nil (n : Nat) : ofNat n ≠ [] :=
  Nat.toDigits_ne_nil

theorem isDigit_of_mem_ofNat {n : Nat} {c : Char} (h : c ∈ ofNat n) : c.isDigit = true :=
  Nat.isDigit_of_mem_toDigits (by decide) (by decide) h

theorem notMem_ofNat {c : Char} (h : c.isDigit = false) (n : Nat) : c ∉ ofNat n := by
  intro hmem
  rw [isDigit_of_mem_ofNat hmem] at h
  cases h

theorem toNat?_ofNat (n : Nat) : toNat? (ofNat n) = some n := by
  have hdigits : (ofNat n).all Char.isDigit = true :=
    List.all_eq_true.mpr fun _ hc => isDigit_of_mem_ofNat hc
  have hread : Nat.ofDigitChars 10 (ofNat n) 0 = n :=
    Nat.ofDigitChars_ten_toDigits
  simp [toNat?, ofNat_ne_nil, hdigits, hread]

theorem toInt?_ofNat (n : Nat) : toInt? (ofNat n) = some (n : Int) := by
  have hread := toNat?_ofNat n
  have hdigits : ∀ c ∈ ofNat n, c.isDigit = true := fun _ hc => isDigit_of_mem_ofNat hc
  generalize ofNat n = digits at hread hdigits
  cases digits with
  | nil =>
      simp [toNat?] at hread
  | cons c rest =>
      have hsign : c ≠ '-' := by
        intro hc
        have := hdigits c (by simp)
        simp [hc] at this
      unfold toInt?
      split
      · rename_i heq
        exact absurd (List.cons.inj heq).1 hsign
      · simp [hread]

theorem toInt?_ofInt (i : Int) : toInt? (ofInt i) = some i := by
  cases i with
  | ofNat n =>
      exact toInt?_ofNat n
  | negSucc n =>
      simp [ofInt, toInt?, toNat?_ofNat]
      omega

theorem ofInt_injective {i j : Int} (h : ofInt i = ofInt j) : i = j := by
  have hi := toInt?_ofInt i
  rw [h, toInt?_ofInt] at hi
  exact (Option.some.inj hi).symm

end Decimal
end Text
end TextCoordinates
