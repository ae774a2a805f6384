import TextCoordinates.Span

/-!
# Spans by their bounds

A span of some length, an empty one and a hull can also be made by joining two bounds.
Joining checks both bounds, whatever was checked before, and puts them in order.  None of
these last checks fails, and the bounds are in order already, so the span is the same.
-/

namespace TextCoordinates
namespace Span

def ofLengthByBounds (start length : Int) : Except Violation Span :=
  if start < 0 then .error (.spanBound "start" start)
  else if length < 0 then .error (.spanLength length)
  else ofBounds start (start + length)

def emptyAtByBounds (offset : Int) : Except Violation Span :=
  if offset < 0 then .error (.spanBound "at" offset)
  else ofBounds offset offset

theorem ofLengthByBounds_eq_ofLength (start length : Int) :
    ofLengthByBounds start length = ofLength start length := by
  unfold ofLengthByBounds ofLength
  by_cases hstart : start < 0
  · rw [if_pos hstart, if_pos hstart]
  · by_cases hlength : length < 0
    · rw [if_neg hstart, if_neg hstart, if_pos hlength, if_pos hlength]
    · obtain ⟨start, rfl⟩ := Int.eq_ofNat_of_zero_le (Int.not_lt.mp hstart)
      obtain ⟨length, rfl⟩ := Int.eq_ofNat_of_zero_le (Int.not_lt.mp hlength)
      rw [if_neg hstart, if_neg hstart, if_neg hlength, if_neg hlength, ← Int.natCast_add,
        ofBounds_natCast]
      exact congrArg Except.ok
        (eq_of_bounds (Nat.min_eq_left (Nat.le_add_right start length))
          (Nat.max_eq_right (Nat.le_add_right start length)))

theorem emptyAtByBounds_eq_emptyAt (offset : Int) :
    emptyAtByBounds offset = emptyAt offset := by
  unfold emptyAtByBounds emptyAt
  by_cases hoffset : offset < 0
  · rw [if_pos hoffset, if_pos hoffset]
  · obtain ⟨offset, rfl⟩ := Int.eq_ofNat_of_zero_le (Int.not_lt.mp hoffset)
    rw [if_neg hoffset, if_neg hoffset, ofBounds_natCast]
    exact congrArg Except.ok (eq_of_bounds (Nat.min_self offset) (Nat.max_self offset))

/-- The hull with a span that may be missing, from the smaller start to the larger stop. -/
def extendByBounds (a : Span) : Option Span → Except Violation Span
  | none => .ok a
  | some b => ofBounds (min (a.start : Int) b.start) (max (a.stop : Int) b.stop)

theorem extendByBounds_eq_ok (a : Span) (other : Option Span) :
    a.extendByBounds other = .ok (a.extend other) := by
  cases other with
  | none =>
      rfl
  | some b =>
      have hstart : min (a.start : Int) b.start = (a.hull b).start := by
        rw [hull]
        lia
      have hstop : max (a.stop : Int) b.stop = (a.hull b).stop := by
        rw [hull]
        lia
      rw [extendByBounds, hstart, hstop, ofBounds_bounds]
      rfl

end Span
end TextCoordinates
