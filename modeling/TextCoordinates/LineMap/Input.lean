import TextCoordinates.Failure
import TextCoordinates.Json.Basic
import TextCoordinates.LineMap.Scan

/-!
# Line maps from unchecked input

A line map is built from a text and from nothing else: a list of characters, say,
is refused by the name of its kind.
-/

namespace TextCoordinates
namespace LineMap

def ofInput : Json → Except Failure (LineMap × List BuildRecord)
  | .string text => .ok (build text)
  | other => .error (.notText other.kindName)

theorem ofInput_string (text : Text) : ofInput (.string text) = .ok (build text) := rfl

end LineMap
end TextCoordinates
