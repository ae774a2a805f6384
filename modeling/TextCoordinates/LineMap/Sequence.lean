import TextCoordinates.LineMap.Basic
import TextCoordinates.Failure

/-!
# Line maps as sequences

A line map is also the sequence of its lines: it can be sliced, reversed, searched for
a line and compared.
-/

namespace TextCoordinates
namespace LineMap

instance : Membership Line LineMap :=
  ⟨fun map line => line ∈ map.toList⟩

theorem mem_iff {map : LineMap} {line : Line} : line ∈ map ↔ line ∈ map.toList :=
  Iff.rfl

instance (map : LineMap) (line : Line) : Decidable (line ∈ map) :=
  decidable_of_iff _ mem_iff.symm

def slice (map : LineMap) (slice : Slice) : Except Failure (List Line) :=
  match slice.select? map.lines with
  | some lines => .ok lines
  | none => .error .zeroStep

/-- The entries asked for by number, from the last one down to the first. -/
def reversed (map : LineMap) : Except Violation (List Line) :=
  Progression.traverse ⟨map.count - 1, -1, -1⟩ map.line

def occurrences (map : LineMap) (line : Line) : Nat :=
  map.toList.count line

/-!
## Searching

The search asks for one entry after the other, from a first number on and up to a stop.
It also ends at a number that the table refuses.  A start or a stop below zero counts
from the end of the table, and a start that is then still below zero is the front.
-/

def seek (map : LineMap) (line : Line) (stop : Option Int) (number : Nat) :
    Except Failure Nat :=
  if stop.all ((number : Int) < ·) then
    match _h : map.line number with
    | .ok entry => if entry = line then .ok number else map.seek line stop (number + 1)
    | .error violation =>
        if Failure.IsA violation .index then .error .notFound else .error violation
  else
    .error .notFound
termination_by map.count - number
decreasing_by exact Nat.sub_succ_lt_self _ _ (lt_count_of_line_eq_ok _h)

def indexOf (map : LineMap) (line : Line) (start : Int) (stop : Option Int) :
    Except Failure Nat :=
  map.seek line (stop.map (Slice.fromFront map.count)) (Slice.fromFront map.count start).toNat

/-!
## Comparing

Two maps are compared by their entries, one place after the other.  A map says nothing of
a value of another kind, not even of the table of its own lines.
-/

inductive Comparand where
  | map (map : LineMap)
  /-- A value of another kind, with what it says of the map, if it says anything. -/
  | foreign (answer : Option Bool)

/-- Two values are different if neither of them knows the other one. -/
def isEqual (map : LineMap) : Comparand → Bool
  | .map other => map.lines == other.lines
  | .foreign answer => answer.getD false

@[simp] theorem isEqual_map_iff {map other : LineMap} :
    map.isEqual (.map other) = true ↔ map = other := by
  rw [isEqual, beq_iff_eq]
  constructor
  · intro h
    cases map
    cases other
    cases h
    rfl
  · intro h
    rw [h]

end LineMap
end TextCoordinates
