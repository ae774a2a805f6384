import TextCoordinates.Text.CaseContext
import TextCoordinates.Text.LetterCase

/-!
# Capitalised words

A word is capitalised by writing its first character in the form that starts a word
and all the others in lower case.  A capital sigma has two lower-case forms, of
which one stands at the end of a word.
-/

namespace TextCoordinates
namespace Text

def capitalSigma : Char := 'Σ'

/-- A sigma ends a word if a letter comes before it and none follows. -/
def endsWord (before after : Text) : Bool :=
  (before.find? (!isCaseIgnorable ·)).any isCased
    && !(after.find? (!isCaseIgnorable ·)).any isCased

def lowerSigma (before after : Text) : Char :=
  if endsWord before after then 'ς' else 'σ'

/-- The rest of a word in lower case; `before` holds what precedes it, the last first. -/
def lowerAfter (before : Text) : Text → Text
  | [] => []
  | c :: rest =>
      (if c = capitalSigma then [lowerSigma before rest] else lowerForm c)
        ++ lowerAfter (c :: before) rest

def capitalize : Text → Text
  | [] => []
  | c :: rest => startForm c ++ lowerAfter [c] rest

theorem lowerAfter_ascii {c : Char} (h : c.toNat < 0x80) (before rest : Text) :
    lowerAfter before (c :: rest) = c.toLower :: lowerAfter (c :: before) rest := by
  have hsigma : c ≠ capitalSigma := by
    intro hc
    rw [hc] at h
    exact absurd h (by decide)
  simp [lowerAfter, hsigma, lowerForm_of_ascii h]

example : capitalize "eND OF line" = "End of line" := by decide

end Text
end TextCoordinates
