import TextCoordinates.LineMap.Basic
import TextCoordinates.Location

/-!
# Looking up positions

The line of a position is found by halving a window of the table.  The search looks
at the middle entry and keeps the side on which the position must lie if the
spans are in order.  On a table whose spans are not in order the search may miss,
and it never looks at an entry twice.
-/

namespace TextCoordinates

/-!
## Windows

A window is the part of the table from `low` up to and without `high`.
-/

structure Window where
  low : Nat
  high : Nat
deriving DecidableEq

namespace Window

def width (window : Window) : Nat :=
  window.high - window.low

def middle (window : Window) : Nat :=
  window.low + window.width / 2

def below (window : Window) : Window :=
  ⟨window.low, window.middle⟩

def above (window : Window) : Window :=
  ⟨window.middle + 1, window.high⟩

theorem width_below_lt {window : Window} (h : window.low < window.high) :
    window.below.width < window.width := by
  simp only [below, middle, width]
  omega

theorem width_above_lt {window : Window} (h : window.low < window.high) :
    window.above.width < window.width := by
  simp only [above, middle, width]
  omega

theorem middle_lt_high {window : Window} (h : window.low < window.high) :
    window.middle < window.high := by
  simp only [middle, width]
  omega

end Window

/-!
## One look at the table
-/

inductive Probe where
  /-- The entry holds the position. -/
  | found (line : Line)
  /-- No entry is left to look at. -/
  | missed
  /-- The search goes on in a smaller window. -/
  | narrowed (window : Window)
deriving DecidableEq

namespace Probe

def ofLine (position : Int) (window : Window) (line : Line) : Probe :=
  if position ∈ line.span then found line
  else if position < line.span.start then narrowed window.below
  else narrowed window.above

def ofWindow (lines : Array Line) (position : Int) (window : Window) : Probe :=
  if window.low < window.high then
    match lines[window.middle]? with
    | some line => ofLine position window line
    | none => missed
  else
    missed

theorem ofLine_eq_narrowed {position : Int} {window rest : Window} {line : Line}
    (h : ofLine position window line = narrowed rest) :
    rest = window.below ∨ rest = window.above := by
  unfold ofLine at h
  split at h
  · cases h
  · split at h
    · cases h
      exact Or.inl rfl
    · cases h
      exact Or.inr rfl

theorem low_lt_high_of_narrowed {lines : Array Line} {position : Int} {window rest : Window}
    (h : ofWindow lines position window = narrowed rest) : window.low < window.high := by
  unfold ofWindow at h
  split at h
  · assumption
  · cases h

theorem width_lt_of_narrowed {lines : Array Line} {position : Int} {window rest : Window}
    (h : ofWindow lines position window = narrowed rest) : rest.width < window.width := by
  have hlt := low_lt_high_of_narrowed h
  unfold ofWindow at h
  rw [if_pos hlt] at h
  split at h
  · rcases ofLine_eq_narrowed h with hrest | hrest
    · rw [hrest]
      exact Window.width_below_lt hlt
    · rw [hrest]
      exact Window.width_above_lt hlt
  · cases h

end Probe

/-!
## The search

A position beyond every span that the search has seen belongs to the end of the
last line.
-/

namespace LineMap

def search (lines : Array Line) (position : Int) (window : Window) : Option Line :=
  match _h : Probe.ofWindow lines position window with
  | .found line => some line
  | .missed => none
  | .narrowed rest => search lines position rest
termination_by window.width
decreasing_by exact Probe.width_lt_of_narrowed _h

def fullWindow (map : LineMap) : Window :=
  ⟨0, map.count⟩

def lastEnd (map : LineMap) : Location :=
  ⟨map.last, map.last.span.length⟩

def resolve (map : LineMap) (position : Int) : Location :=
  match search map.lines position map.fullWindow with
  | some line => ⟨line, position - line.span.start⟩
  | none => map.lastEnd

/-- The location of a position from zero up to and with the size of the text. -/
def locate (map : LineMap) (position : Int) : Except Violation Location :=
  if position < 0 ∨ map.size < position then
    .error (.position position map.size)
  else
    .ok (map.resolve position)

theorem locate_of_mem_range {map : LineMap} {position : Int}
    (hlow : 0 ≤ position) (hhigh : position ≤ map.size) :
    map.locate position = .ok (map.resolve position) := by
  unfold locate
  rw [if_neg]
  omega

end LineMap
end TextCoordinates
