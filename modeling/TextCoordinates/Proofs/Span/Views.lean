import TextCoordinates.Proofs.Slice
import TextCoordinates.Proofs.Span.Checked

/-!
# Views of a span

A span can be asked for one offset, listed as a progression, used as a slice, or cut out of
a sequence.  All of these see the same offsets.  A sequence may end before the span does or
even before it starts; then the slice and the cut leave out the offsets that the sequence
does not have.
-/

namespace TextCoordinates
namespace Span

theorem contains_iff {span : Span} {offset : Int} :
    span.contains offset = true ↔ (span.start : Int) ≤ offset ∧ offset < span.stop := by
  rw [contains, decide_eq_true_iff, mem_iff]

theorem length_toProgression (span : Span) : span.toProgression.toList.length = span.length := by
  rw [toProgression, Progression.toList_unit, List.length_map, List.length_range, length]

theorem mem_toProgression {span : Span} {offset : Int} :
    offset ∈ span.toProgression.toList ↔ offset ∈ span := by
  rw [toProgression, Progression.mem_toList_up Int.one_pos, mem_iff]
  simp only [Int.one_dvd, and_true]

theorem pairwise_toProgression (span : Span) :
    span.toProgression.toList.Pairwise (· < ·) :=
  Progression.pairwise_toList_up Int.one_pos

/-!
## Entries at the offsets
-/

section

variable {α : Type u} (span : Span) (entries : List α)

theorem extract_eq_drop_take : span.extract entries = (entries.take span.stop).drop span.start :=
  (List.drop_take ..).symm

theorem extract_eq_filterMap :
    span.extract entries =
      span.toProgression.toList.filterMap fun offset => entries[offset.toNat]? := by
  rw [extract_eq_drop_take, ← Slice.filterMap_getElem?_unit, toProgression]

/-- Offsets beyond the end are passed over. -/
theorem map_some_extract :
    (span.extract entries).map some =
      (span.toProgression.toList.filter fun (offset : Int) => offset < entries.length).map
        fun offset => entries[offset.toNat]? := by
  rw [extract_eq_filterMap, List.map_filterMap_some_eq_filter_map_isSome, List.filter_map]
  apply congrArg
  apply List.filter_congr
  intro offset hoffset
  have hlow := (mem_iff.mp (mem_toProgression.mp hoffset)).left
  rw [Function.comp, Bool.eq_iff_iff, isSome_getElem?, decide_eq_true_iff]
  lia

theorem select?_toSlice : span.toSlice.select? entries.toArray = some (span.extract entries) := by
  have hpace : 0 < span.toSlice.pace := Int.one_pos
  rw [toSlice, Slice.select?_of_unit_step]
  show some ((entries.take (span.toSlice.boundPlace entries.length span.stop).toNat).drop
    (span.toSlice.boundPlace entries.length span.start).toNat) = _
  rw [Slice.take_boundPlace entries hpace, Slice.drop_boundPlace (List.length_take_le' _ _) hpace,
    Slice.fromFront_natCast, Slice.fromFront_natCast, extract_eq_drop_take]
  rfl

theorem natCast_length_extract :
    ((span.extract entries).length : Int) =
      min (span.stop : Int) entries.length - min (span.start : Int) entries.length := by
  have hle := span.start_le_stop
  rw [length_extract, length]
  lia

end

/-- Spans that meet are cut out as one. -/
theorem extract_hull_of_meets {a b : Span} (h : a.stop = b.start) (entries : List α) :
    (a.hull b).extract entries = a.extract entries ++ b.extract entries := by
  have hstart : a.start ≤ b.start := Nat.le_trans a.start_le_stop (Nat.le_of_eq h)
  have hstop : a.stop ≤ b.stop := Nat.le_trans (Nat.le_of_eq h) b.start_le_stop
  have hhull := (a.hull b).extract_append_drop entries
  have hpieces : a.extract entries ++ b.extract entries ++ entries.drop b.stop =
      entries.drop a.start := by
    rw [List.append_assoc, b.extract_append_drop, ← h, a.extract_append_drop]
  rw [(hull_of_le hstart hstop).left, (hull_of_le hstart hstop).right] at hhull
  exact List.append_cancel_right (hhull.trans hpieces.symm)

/-- The views of a span agree, whatever the length of the sequence that it is used on. -/
theorem views_agree {α : Type u} (span : Span) (entries : List α) :
    (∀ offset : Int,
      (span.contains offset = true ↔ (span.start : Int) ≤ offset ∧ offset < span.stop) ∧
      (span.contains offset = true ↔ offset ∈ span) ∧
      (span.contains offset = true ↔ offset ∈ span.toProgression.toList)) ∧
    span.toProgression.toList.length = span.length ∧
    span.toProgression.toList.Pairwise (· < ·) ∧
    span.toSlice.select? entries.toArray = some (span.extract entries) ∧
    (span.extract entries).map some =
      (span.toProgression.toList.filter fun (offset : Int) => offset < entries.length).map
        (fun offset => entries[offset.toNat]?) ∧
    ((span.extract entries).length : Int) =
      min (span.stop : Int) entries.length - min (span.start : Int) entries.length ∧
    (∀ next : Span, span.stop = next.start →
      ∃ cover, span.extendByBounds (some next) = .ok cover ∧
        cover.extract entries = span.extract entries ++ next.extract entries) := by
  refine ⟨?_, span.length_toProgression, span.pairwise_toProgression, span.select?_toSlice entries,
    span.map_some_extract entries, span.natCast_length_extract entries, ?_⟩
  · intro offset
    refine ⟨contains_iff, ?_, ?_⟩
    · rw [contains_iff, mem_iff]
    · rw [contains_iff, mem_toProgression, mem_iff]
  · intro next hmeets
    exact ⟨span.hull next, span.extendByBounds_eq_ok (some next),
      extract_hull_of_meets hmeets entries⟩

theorem views_agree_beyond_end :
    let span : Span := .joining 1 4
    let next : Span := .joining 4 9
    let text : Text := "abc"
    span.stop = next.start ∧ span.toSlice.select? text.toArray = some "bc".toList ∧
      next.extract text = [] ∧
      ∃ cover, span.extendByBounds (some next) = .ok cover ∧ cover.extract text = "bc".toList := by
  intro span next text
  rcases views_agree span text with ⟨_, _, _, hslice, _, _, hmeets⟩
  have hextract : span.extract text = "bc".toList := rfl
  have hbeyond : next.extract text = [] := rfl
  rcases hmeets next rfl with ⟨cover, hcover, hcut⟩
  rw [hextract, hbeyond, List.append_nil] at hcut
  rw [hextract] at hslice
  exact ⟨rfl, hslice, hbeyond, cover, hcover, hcut⟩

end Span
end TextCoordinates
