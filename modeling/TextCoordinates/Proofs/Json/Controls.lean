import TextCoordinates.Json.Printer

/-!
# No control characters

What is written holds no character below the space, whatever the strings in it hold.
-/

namespace TextCoordinates
namespace Json

open Text.Decimal (ofNat ofInt)

def FreeOfControls (text : Text) : Prop :=
  ∀ c ∈ text, 0x20 ≤ c.toNat

@[simp] theorem freeOfControls_nil : FreeOfControls [] :=
  List.forall_mem_nil _

@[simp] theorem freeOfControls_cons {c : Char} {text : Text} :
    FreeOfControls (c :: text) ↔ 0x20 ≤ c.toNat ∧ FreeOfControls text :=
  List.forall_mem_cons

@[simp] theorem freeOfControls_append {a b : Text} :
    FreeOfControls (a ++ b) ↔ FreeOfControls a ∧ FreeOfControls b :=
  List.forall_mem_append

theorem freeOfControls_of_all {text : Text} (h : text.all (0x20 ≤ ·.toNat) = true) :
    FreeOfControls text := by
  intro c hc
  exact of_decide_eq_true (List.all_eq_true.mp h c hc)

theorem FreeOfControls.delimiter_notMem {text : Text} (h : FreeOfControls text) :
    Text.delimiter ∉ text := by
  intro hmem
  exact absurd (h Text.delimiter hmem) (by decide)

/-!
## Numbers
-/

@[simp] theorem freeOfControls_ofNat (n : Nat) : FreeOfControls (ofNat n) := by
  intro c hc
  have hdigit := Text.Decimal.isDigit_of_mem_ofNat hc
  have hle : '0'.toNat ≤ c.toNat := by
    simp only [Char.isDigit, Bool.and_eq_true, decide_eq_true_eq] at hdigit
    exact hdigit.left
  exact Nat.le_trans (by decide) hle

@[simp] theorem freeOfControls_ofInt (i : Int) : FreeOfControls (ofInt i) := by
  cases i with
  | ofNat n =>
      exact freeOfControls_ofNat n
  | negSucc n =>
      simp [ofInt]

@[simp] theorem freeOfControls_sign (negative : Bool) : FreeOfControls (sign negative) := by
  cases negative with
  | false =>
      exact freeOfControls_nil
  | true =>
      exact freeOfControls_of_all rfl

@[simp] theorem freeOfControls_hexPadded (width n : Nat) :
    FreeOfControls (Text.hexPadded width n) := by
  have hdigit : ∀ digit < 16, 0x20 ≤ (Text.hexDigit digit).toNat := by
    decide
  induction width generalizing n with
  | zero =>
      exact freeOfControls_nil
  | succ width ih =>
      have hlast := hdigit (n % 16) (Nat.mod_lt n (by decide))
      simp [Text.hexPadded, ih (n / 16), hlast]

/-!
## Strings

Five control characters are written with a letter of their own, and all others by their
code.
-/

theorem freeOfControls_escape (c : Char) : FreeOfControls (Quoted.escape c) := by
  unfold Quoted.escape
  refine iteInduction (fun h => ?_) fun _ => ?_
  · rcases h with rfl | rfl
    · exact freeOfControls_of_all rfl
    · exact freeOfControls_of_all rfl
  refine iteInduction (fun _ => freeOfControls_of_all rfl) fun _ => ?_
  refine iteInduction (fun _ => freeOfControls_of_all rfl) fun _ => ?_
  refine iteInduction (fun _ => freeOfControls_of_all rfl) fun _ => ?_
  refine iteInduction (fun _ => freeOfControls_of_all rfl) fun _ => ?_
  refine iteInduction (fun _ => freeOfControls_of_all rfl) fun _ => ?_
  refine iteInduction (fun _ => ?_) fun hplain => ?_
  · simp
  · simpa using hplain

@[simp] theorem freeOfControls_write (text : Text) : FreeOfControls (Quoted.write text) := by
  have hall : FreeOfControls (Quoted.escapeAll text) := by
    intro c hc
    rcases List.mem_flatMap.mp hc with ⟨written, _hmem, hescape⟩
    exact freeOfControls_escape written c hescape
  simp [Quoted.write, hall]

/-!
## Values
-/

@[simp] theorem freeOfControls_comma : FreeOfControls comma :=
  freeOfControls_of_all rfl

@[simp] theorem freeOfControls_colon : FreeOfControls colon :=
  freeOfControls_of_all rfl

mutual

theorem freeOfControls_print (value : Json) : FreeOfControls (print value) := by
  cases value with
  | null =>
      rw [print]
      exact freeOfControls_of_all rfl
  | bool value =>
      cases value with
      | false =>
          rw [print]
          exact freeOfControls_of_all rfl
      | true =>
          rw [print]
          exact freeOfControls_of_all rfl
  | int value =>
      simp [print]
  | decimal negative mantissa exponent =>
      simp [print]
  | string text =>
      simp [print]
  | array items =>
      simp [print, freeOfControls_printItems items]
  | object members =>
      simp [print, freeOfControls_printMembers members]

theorem freeOfControls_printItems (items : List Json) : FreeOfControls (printItems items) := by
  match items with
  | [] =>
      simp
  | [item] =>
      simp [freeOfControls_print item]
  | item :: next :: items =>
      simp [freeOfControls_print item, freeOfControls_printItems (next :: items)]

theorem freeOfControls_printMembers (members : List (Text × Json)) :
    FreeOfControls (printMembers members) := by
  match members with
  | [] =>
      simp
  | [(name, value)] =>
      simp [freeOfControls_print value]
  | (name, value) :: next :: members =>
      simp [freeOfControls_print value, freeOfControls_printMembers (next :: members)]

end

end Json
end TextCoordinates
