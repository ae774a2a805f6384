import TextCoordinates.Line

/-!
# Locations

A location names a character by its line and its distance from the start of that
line.  The distance of the first character is its column, zero.
-/

namespace TextCoordinates

structure Location where
  line : Line
  offset : Int
deriving DecidableEq

namespace Location

def number (location : Location) : Int :=
  location.line.number

def column (location : Location) : Int :=
  location.offset

/-- The distance from the start of the whole text. -/
def absolute (location : Location) : Int :=
  location.line.span.start + location.offset

def describe (location : Location) : Text :=
  "CharacterPosition(line=" ++ location.line.describe
    ++ ", offset=" ++ Text.Decimal.ofInt location.offset ++ ")"

/-!
## Written as line and column

Lines and columns are counted from zero or from one, both alike.
-/

inductive Numbering where
  | fromZero
  | fromOne
deriving DecidableEq

def Numbering.first : Numbering → Int
  | fromZero => 0
  | fromOne => 1

def format (location : Location) (numbering : Numbering) : Text :=
  Text.Decimal.ofInt (location.number + numbering.first) ++ ":"
    ++ Text.Decimal.ofInt (location.column + numbering.first)

end Location
end TextCoordinates
