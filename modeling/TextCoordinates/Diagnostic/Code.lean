import TextCoordinates.Text.Basic

/-!
# Diagnostic codes

Each kind of rejected argument has a name and a number.  The numbers are grouped:
one thousand for spans, two thousand for line maps, three thousand for excerpts.
-/

namespace TextCoordinates
namespace Diagnostic

inductive Code where
  | spanBoundNegative
  | spanLengthNegative
  | lineNumberOutOfRange
  | positionOutOfRange
  | lineTableEmpty
  | contextLinesNegative
deriving DecidableEq

namespace Code

def all : List Code :=
  [ spanBoundNegative, spanLengthNegative, lineNumberOutOfRange, positionOutOfRange,
    lineTableEmpty, contextLinesNegative ]

def name : Code → Text
  | spanBoundNegative => "SPAN_BOUND_NEGATIVE"
  | spanLengthNegative => "SPAN_LENGTH_NEGATIVE"
  | lineNumberOutOfRange => "LINE_NUMBER_OUT_OF_RANGE"
  | positionOutOfRange => "POSITION_OUT_OF_RANGE"
  | lineTableEmpty => "LINE_TABLE_EMPTY"
  | contextLinesNegative => "CONTEXT_LINES_NEGATIVE"

def number : Code → Nat
  | spanBoundNegative => 1001
  | spanLengthNegative => 1002
  | lineNumberOutOfRange => 2001
  | positionOutOfRange => 2002
  | lineTableEmpty => 2003
  | contextLinesNegative => 3001

def ofName? (name : Text) : Option Code :=
  all.find? fun code => code.name = name

def ofNumber? (number : Int) : Option Code :=
  all.find? fun code => (code.number : Int) = number

/-!
## Looking up

Names and numbers are distinct, so looking either up gives back its code.
-/

theorem mem_all (code : Code) : code ∈ all := by
  cases code <;> simp [all]

theorem ofName?_name (code : Code) : ofName? code.name = some code := by
  cases code <;> rfl

theorem ofNumber?_number (code : Code) : ofNumber? code.number = some code := by
  cases code <;> rfl

theorem name_injective {a b : Code} (h : a.name = b.name) : a = b := by
  have ha := ofName?_name a
  rw [h, ofName?_name] at ha
  exact (Option.some.inj ha).symm

end Code
end Diagnostic
end TextCoordinates
