import TextCoordinates.LineMap.Lookup

/-!
# Excerpts

Helpers that look at a text and its line map together: positions as line and
column, the text of a line, and an excerpt of the lines around a position with a
marker below the position.  The map does not hold the text, so the caller brings
it; another text is cut at the same offsets, as far as it reaches.
-/

namespace TextCoordinates
namespace LineMap

def formatPosition (map : LineMap) (position : Int) (numbering : Location.Numbering) :
    Except Violation Text :=
  (map.locate position).map (·.format numbering)

/-- The text of an entry, with or without the delimiter that ends it. -/
def lineText (map : LineMap) (text : Text) (number : Int) (keepEnd : Bool) :
    Except Violation Text :=
  (map.line number).map fun line => if keepEnd then line.extract text else line.content text

/-!
## Rows around a position

The number that the found line carries says which entry is the current row.  Rows
are shown if their place is at most `context` away from it, and the marker stands
below the current row.
-/

def defaultContext : Int := 2

def defaultMarker : Text := "^"

/-- The entries, with their places, that are near the current row. -/
def nearby (map : LineMap) (current context : Int) : List (Line × Nat) :=
  (map.toList.zipIdx.take (current + context + 1).toNat).drop (current - context).toNat

def markerRow (column : Int) (marker : Text) : Text :=
  List.replicate column.toNat ' ' ++ marker

def excerptRows (map : LineMap) (text : Text) (found : Location) (context : Int)
    (marker : Text) : List Text :=
  (map.nearby found.number context).flatMap fun (line, place) =>
    if place = found.number then [line.content text, markerRow found.column marker]
    else [line.content text]

def excerpt (map : LineMap) (text : Text) (position context : Int) (marker : Text) :
    Except Violation Text :=
  if context < 0 then .error (.contextLines context)
  else (map.locate position).map fun found =>
    Text.joinRows (map.excerptRows text found context marker)

theorem excerpt_of_negative {context : Int} (h : context < 0) (map : LineMap) (text : Text)
    (position : Int) (marker : Text) :
    map.excerpt text position context marker = .error (.contextLines context) := by
  simp [excerpt, h]

end LineMap
end TextCoordinates
