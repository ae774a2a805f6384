import TextCoordinates.Progression

/-!
# Slices

A slice picks entries out of a sequence by start, stop and step, each of which may
be left open.  A negative bound counts from the end of the sequence.  Bounds beyond
either end are moved to it, so that every slice with a step other than zero picks
entries that exist.
-/

namespace TextCoordinates

structure Slice where
  start : Option Int
  stop : Option Int
  step : Option Int
deriving DecidableEq

namespace Slice

/-- A bound counted from the front. -/
def fromFront (count : Nat) (bound : Int) : Int :=
  if bound < 0 then bound + count else bound

def clamp (low high bound : Int) : Int :=
  max low (min high bound)

/-- The steps through a sequence of `count` entries, or nothing for a zero step. -/
def resolve? (slice : Slice) (count : Nat) : Option Progression :=
  let step := slice.step.getD 1
  if 0 < step then
    let bound := fun b => clamp 0 count (fromFront count b)
    some
      { start := (slice.start.map bound).getD 0
        stop := (slice.stop.map bound).getD count
        step := step }
  else if step < 0 then
    let bound := fun b => clamp (-1) (count - 1) (fromFront count b)
    some
      { start := (slice.start.map bound).getD (count - 1)
        stop := (slice.stop.map bound).getD (-1)
        step := step }
  else
    none

/-- The entries picked, in the order of the steps. -/
def select? (slice : Slice) (entries : Array α) : Option (List α) :=
  (slice.resolve? entries.size).map fun steps =>
    steps.toList.filterMap fun i => entries[i.toNat]?

theorem resolve?_eq_none_iff {slice : Slice} {count : Nat} :
    slice.resolve? count = none ↔ slice.step = some 0 := by
  cases hstep : slice.step with
  | none =>
      simp [resolve?, hstep]
  | some step =>
      simp only [resolve?, hstep, Option.getD_some, Option.some.injEq]
      split
      · simp
        omega
      · split
        · simp
          omega
        · simp
          omega

end Slice
end TextCoordinates
