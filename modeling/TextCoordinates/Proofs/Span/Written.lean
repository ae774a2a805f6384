import TextCoordinates.Span

/-!
# Written spans

A span is written as its start and its stop with two dots between them.  Numbers hold no
dots, so the written form is taken apart in one way only.  The two numbers are read back and
joined, and joining leaves bounds that are in order as they are.
-/

namespace TextCoordinates
namespace Span

open Text.Decimal (ofNat toInt?)

theorem dot_notMem_ofNat (n : Nat) : '.' ∉ ofNat n :=
  Text.Decimal.notMem_ofNat rfl n

theorem toText_eq (span : Span) :
    span.toText = ofNat span.start ++ '.' :: '.' :: ofNat span.stop := by
  rw [toText, List.append_assoc]
  rfl

theorem sides_of_toText {span : Span} {left right : Text}
    (h : span.toText = left ++ '.' :: '.' :: right) :
    ofNat span.start = left ∧ ofNat span.stop = right := by
  rw [toText_eq] at h
  exact Text.sides_of_append_pair (dot_notMem_ofNat span.start) (dot_notMem_ofNat span.stop) h

/-- The dots stand at one place only. -/
theorem dots_at_iff {span : Span} {place : Nat} :
    ['.', '.'] <+: span.toText.drop place ↔ place = (ofNat span.start).length := by
  constructor
  · rintro ⟨right, hright⟩
    have hsplit : span.toText = span.toText.take place ++ '.' :: '.' :: right := by
      show _ = _ ++ (['.', '.'] ++ right)
      rw [hright, List.take_append_drop]
    have hlt : place < span.toText.length := by
      apply Nat.lt_of_not_le
      intro hle
      rw [List.drop_eq_nil_of_le hle] at hright
      cases hright
    rw [(sides_of_toText hsplit).left, List.length_take, Nat.min_eq_left (Nat.le_of_lt hlt)]
  · rintro rfl
    rw [toText_eq, List.drop_left]
    exact ⟨ofNat span.stop, rfl⟩

/-- The span between two written bounds, if both sides are numbers. -/
def ofSides? (left right : Text) : Option (Except Violation Span) := do
  let start ← toInt? left
  let stop ← toInt? right
  some (ofBounds start stop)

theorem ofSides?_ofNat (span : Span) :
    ofSides? (ofNat span.start) (ofNat span.stop) = some (.ok span) := by
  rw [ofSides?, Text.Decimal.toInt?_ofNat, Text.Decimal.toInt?_ofNat, ← ofBounds_bounds span]
  rfl

theorem toText_injective {a b : Span} (h : a.toText = b.toText) : a = b := by
  rw [toText_eq b] at h
  rcases sides_of_toText h with ⟨hstart, hstop⟩
  have hread := ofSides?_ofNat a
  rw [hstart, hstop, ofSides?_ofNat] at hread
  cases hread
  rfl

/-- The written form of a span can be read back, so it belongs to no other span. -/
theorem toText_readable :
    (∀ span : Span, ∃ left right : Text,
      span.toText = left ++ '.' :: '.' :: right ∧
      (∀ place, ['.', '.'] <+: span.toText.drop place ↔ place = left.length) ∧
      ofSides? left right = some (.ok span)) ∧
    (∀ a b : Span, a.toText = b.toText ↔ a = b) := by
  constructor
  · intro span
    exact ⟨ofNat span.start, ofNat span.stop, span.toText_eq, fun place => dots_at_iff,
      span.ofSides?_ofNat⟩
  · intro a b
    constructor
    · exact toText_injective
    · rintro rfl
      rfl

end Span
end TextCoordinates
