import TextCoordinates.Diagnostic.Basic
import TextCoordinates.Text.Capital
import TextCoordinates.Text.Decimal

/-!
# Violations

A violation is an argument outside its accepted range, together with the numbers
that set the range.  Each has one diagnostic.
-/

namespace TextCoordinates

inductive Violation where
  /-- The bound called `name` of a span is below zero. -/
  | spanBound (name : Text) (value : Int)
  /-- The length of a span is below zero. -/
  | spanLength (length : Int)
  /-- The line number is not one of the `count` lines. -/
  | lineNumber (number count : Int)
  /-- The position is neither in a text of `size` characters nor at its end. -/
  | position (place size : Int)
  /-- The line table has no line. -/
  | emptyTable
  /-- The number of context lines is below zero. -/
  | contextLines (count : Int)
deriving DecidableEq

namespace Violation

/-- The rejected argument; for a table, the number of its lines. -/
def value : Violation → Int
  | spanBound _ value => value
  | spanLength length => length
  | lineNumber number _ => number
  | position place _ => place
  | emptyTable => 0
  | contextLines count => count

def code : Violation → Diagnostic.Code
  | spanBound _ _ => .spanBoundNegative
  | spanLength _ => .spanLengthNegative
  | lineNumber _ _ => .lineNumberOutOfRange
  | position _ _ => .positionOutOfRange
  | emptyTable => .lineTableEmpty
  | contextLines _ => .contextLinesNegative

def parameter : Violation → Text
  | spanBound name _ => name
  | spanLength _ => "length"
  | lineNumber _ _ => "line_number"
  | position _ _ => "position"
  | emptyTable => "lines"
  | contextLines _ => "context_lines"

/-- The inequality that the argument fails. -/
def bound : Violation → Text
  | spanBound name _ => name ++ " >= 0"
  | spanLength _ => "length >= 0"
  | lineNumber _ count => "0 <= line_number < " ++ Text.Decimal.ofInt count
  | position _ size => "0 <= position <= " ++ Text.Decimal.ofInt size
  | emptyTable => "len(lines) >= 1"
  | contextLines _ => "context_lines >= 0"

/-!
## Wording

A line number or position below zero is called negative; one that is too large is
told the size that it exceeds.
-/

def message : Violation → Text
  | spanBound name value =>
      name.capitalize ++ " cannot be less than 0, got " ++ Text.Decimal.ofInt value
  | spanLength length =>
      "Length cannot be less than 0, got " ++ Text.Decimal.ofInt length
  | lineNumber number count =>
      if number < 0 then
        "Line number cannot be negative, got " ++ Text.Decimal.ofInt number
      else
        "Line number " ++ Text.Decimal.ofInt number
          ++ " is out of range (the line map has " ++ Text.Decimal.ofInt count ++ " line(s))"
  | position place size =>
      if place < 0 then
        "Character position cannot be negative, got " ++ Text.Decimal.ofInt place
      else
        "Character position " ++ Text.Decimal.ofInt place
          ++ " is past the end of the mapped text (size " ++ Text.Decimal.ofInt size ++ ")"
  | emptyTable => "A line map must contain at least one line"
  | contextLines count =>
      "Context lines cannot be negative, got " ++ Text.Decimal.ofInt count

def hint : Violation → Option Text
  | spanBound _ _ => none
  | spanLength _ => some "Use Span(start, end) to build a span from two positions in any order"
  | lineNumber _ _ => some "Line numbers are 0-indexed"
  | position _ _ => some "The position one past the last character is valid"
  | emptyTable => some "Build line maps with LineMap.create(text)"
  | contextLines _ => none

def diagnostic (violation : Violation) : Diagnostic where
  code := violation.code
  message := violation.message
  argument := some violation.parameter
  received := some (Text.Decimal.ofInt violation.value)
  expected := some violation.bound
  hint := violation.hint

end Violation
end TextCoordinates
