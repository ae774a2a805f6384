import TextCoordinates.Span

/-!
# Lines

A line is a number and a span of the text.  The span holds the delimiter that ends
the line, if there is one.  Nothing ties the number of a single line to its span or
to its place in a table.
-/

namespace TextCoordinates

structure Line where
  number : Int
  span : Span
deriving DecidableEq

namespace Line

def ofBounds (number start stop : Int) : Except Violation Line := do
  let span ← Span.ofBounds start stop
  pure ⟨number, span⟩

def describe (line : Line) : Text :=
  "Line(line_number=" ++ Text.Decimal.ofInt line.number
    ++ ", span=" ++ line.span.describe ++ ")"

/-!
## Content

The text of a line is what its span cuts out.  The text may be shorter than the
span expects, or another one altogether.
-/

def extract (line : Line) (text : Text) : Text :=
  line.span.extract text

/-- The text of a line without its delimiter. -/
def content (line : Line) (text : Text) : Text :=
  (line.extract text).dropDelimiter

end Line
end TextCoordinates
