import TextCoordinates.Slice
import TextCoordinates.Text.Decimal
import TextCoordinates.Violation

/-!
# Spans

A span is a half-open interval of offsets: it holds its start and not its stop.
Bounds are never negative and never in the wrong order.  A span knows nothing of
the text whose offsets it holds.
-/

namespace TextCoordinates

structure Span where
  start : Nat
  stop : Nat
  start_le_stop : start ≤ stop
deriving DecidableEq

namespace Span

theorem eq_of_bounds {a b : Span} (hstart : a.start = b.start) (hstop : a.stop = b.stop) :
    a = b := by
  cases a
  cases b
  cases hstart
  cases hstop
  rfl

def length (span : Span) : Nat :=
  span.stop - span.start

def isEmpty (span : Span) : Bool :=
  span.length = 0

instance : Membership Int Span :=
  ⟨fun span offset => (span.start : Int) ≤ offset ∧ offset < span.stop⟩

theorem mem_iff {span : Span} {offset : Int} :
    offset ∈ span ↔ (span.start : Int) ≤ offset ∧ offset < span.stop :=
  Iff.rfl

instance (span : Span) (offset : Int) : Decidable (offset ∈ span) :=
  decidable_of_iff _ mem_iff.symm

def contains (span : Span) (offset : Int) : Bool :=
  offset ∈ span

/-!
## Making spans

The bounds of a span may be given in either order.  A negative one is refused, the
start before the other.
-/

/-- The span between two offsets, whichever comes first. -/
def joining (a b : Nat) : Span :=
  ⟨min a b, max a b, by omega⟩

def ofBounds (start stop : Int) : Except Violation Span :=
  if start < 0 then .error (.spanBound "start" start)
  else if stop < 0 then .error (.spanBound "end" stop)
  else .ok (joining start.toNat stop.toNat)

def ofLength (start length : Int) : Except Violation Span :=
  if start < 0 then .error (.spanBound "start" start)
  else if length < 0 then .error (.spanLength length)
  else .ok ⟨start.toNat, start.toNat + length.toNat, by omega⟩

/-- The empty span at an offset. -/
def point (offset : Nat) : Span :=
  ⟨offset, offset, by omega⟩

def emptyAt (offset : Int) : Except Violation Span :=
  if offset < 0 then .error (.spanBound "at" offset)
  else .ok (point offset.toNat)

/-- The span with one more offset at its end. -/
def grow (span : Span) : Span :=
  ⟨span.start, span.stop + 1, Nat.le_succ_of_le span.start_le_stop⟩

theorem ofBounds_natCast (a b : Nat) : ofBounds a b = .ok (joining a b) := by
  have ha : ¬ (a : Int) < 0 := by omega
  have hb : ¬ (b : Int) < 0 := by omega
  simp [ofBounds, ha, hb]

theorem ofBounds_bounds (span : Span) : ofBounds span.start span.stop = .ok span := by
  have hle := span.start_le_stop
  rw [ofBounds_natCast]
  simp [joining, Nat.min_eq_left hle, Nat.max_eq_right hle]

/-!
## Covering two spans
-/

/-- The smallest span that holds both. -/
def hull (a b : Span) : Span :=
  ⟨min a.start b.start, max a.stop b.stop, by
    have ha := a.start_le_stop
    have hb := b.start_le_stop
    omega⟩

/-- The hull with a span that may be missing. -/
def extend (a : Span) : Option Span → Span
  | none => a
  | some b => a.hull b

theorem hull_comm (a b : Span) : a.hull b = b.hull a := by
  simp [hull, Nat.min_comm, Nat.max_comm]

/-- The bounds of a hull, if one span neither starts nor stops behind the other. -/
theorem hull_of_le {a b : Span} (hstart : a.start ≤ b.start) (hstop : a.stop ≤ b.stop) :
    (a.hull b).start = a.start ∧ (a.hull b).stop = b.stop :=
  ⟨Nat.min_eq_left hstart, Nat.max_eq_right hstop⟩

/-!
## Cutting out
-/

def toProgression (span : Span) : Progression :=
  ⟨span.start, span.stop, 1⟩

def toSlice (span : Span) : Slice :=
  ⟨some span.start, some span.stop, none⟩

/-- The entries at the offsets of a span, as far as there are any. -/
def extract (span : Span) (entries : List α) : List α :=
  (entries.drop span.start).take span.length

theorem length_extract (span : Span) (entries : List α) :
    (span.extract entries).length = min span.length (entries.length - span.start) := by
  simp [extract]

theorem start_add_length (span : Span) : span.start + span.length = span.stop :=
  Nat.add_sub_cancel' span.start_le_stop

/-- What is cut out and what follows it make up all from the start on. -/
theorem extract_append_drop (span : Span) (entries : List α) :
    span.extract entries ++ entries.drop span.stop = entries.drop span.start := by
  rw [extract, ← span.start_add_length, ← List.drop_drop, List.take_append_drop]

theorem extract_eq_drop {span : Span} {entries : List α} (h : span.stop = entries.length) :
    span.extract entries = entries.drop span.start := by
  rw [← span.extract_append_drop, h, List.drop_length, List.append_nil]

theorem extract_of_drop_eq {span : Span} {entries piece rest : List α}
    (h : entries.drop span.start = piece ++ rest) (hlength : span.length = piece.length) :
    span.extract entries = piece ∧ entries.drop span.stop = rest := by
  constructor
  · rw [extract, h, hlength, List.take_left]
  · rw [← span.start_add_length, ← List.drop_drop, h, hlength, List.drop_left]

/-!
## Written forms
-/

def toText (span : Span) : Text :=
  Text.Decimal.ofNat span.start ++ ".." ++ Text.Decimal.ofNat span.stop

def describe (span : Span) : Text :=
  "Span(start=" ++ Text.Decimal.ofNat span.start
    ++ ", end=" ++ Text.Decimal.ofNat span.stop ++ ")"

end Span
end TextCoordinates
