import TextCoordinates.Text.Basic

/-!
# Ranges of character codes

A property of characters is listed as ranges of codes.  Both ends of a range belong
to it.
-/

namespace TextCoordinates
namespace Text

abbrev CodeRanges := List (Nat × Nat)

namespace CodeRanges

def holds (ranges : CodeRanges) (c : Char) : Bool :=
  ranges.any fun (first, last) => first ≤ c.toNat && c.toNat ≤ last

end CodeRanges
end Text
end TextCoordinates
