import TextCoordinates.Proofs.LineMap.Excerpt
import TextCoordinates.Proofs.LineMap.LineText

/-!
# The marker

The row above the marker has lost its delimiter, and the column was counted in the line
that still has it.  The marker stands below the right character all the same: the column
never reaches beyond the end of the row, and it is at that end exactly if the position is
at a delimiter or at the end of the text.
-/

namespace TextCoordinates
namespace LineMap

open Text (closeRows openRows)

/-- The marker stands below the character at the position, or one past the end of the row
if there is none in it. -/
theorem excerpt_marker_below (text marker : Text) {position context : Int}
    (hlow : 0 ≤ position) (hhigh : position ≤ text.length) (hcontext : 0 ≤ context) :
    ∃ (found : Location) (column : Nat) (row before after : Text),
      (ofText text).locate position = .ok found ∧ found.column = column ∧
      (ofText text).lineText text found.number false = .ok row ∧
      (ofText text).excerpt text position context marker =
        .ok (before ++ row ++ Text.delimiter ::
          (List.replicate column ' ' ++ marker ++ after)) ∧
      (before = [] ∨ ∃ front, before = front ++ [Text.delimiter]) ∧
      (after = [] ∨ ∃ rest, after = Text.delimiter :: rest) ∧
      column ≤ position ∧
      row.take column = (text.take position.toNat).drop (position.toNat - column) ∧
      (∀ c, text[position.toNat]? = some c → c ≠ Text.delimiter → row[column]? = some c) ∧
      (position = text.length ∨ text[position.toNat]? = some Text.delimiter →
        row.length = column) := by
  obtain ⟨position, rfl⟩ := Int.eq_ofNat_of_zero_le hlow
  obtain ⟨context, rfl⟩ := Int.eq_ofNat_of_zero_le hcontext
  rcases exists_row_of_position text (Int.ofNat_le.mp hhigh) with
    ⟨front, row, back, line, offset, hrows, hinside, hposition, hnumber, hlocate⟩
  have hrow : (ofText text).lineText text line.number false = .ok row := by
    rw [hnumber, lineText_of_rows_eq hrows]
  have hexcerpt := excerpt_of_rows_eq hrows hnumber hlocate context marker
  rw [Text.joinRows_append_cons_cons] at hexcerpt
  have hstart : position - offset = (closeRows front).length := by
    rw [hposition, Nat.add_sub_cancel_right]
  refine ⟨⟨line, offset⟩, offset, row, closeRows (front.drop (front.length - context)),
    openRows (back.take context), hlocate, rfl, hrow, hexcerpt,
    Text.closeRows_eq_nil_or_append _, Text.openRows_eq_nil_or_cons _, ?_, ?_, ?_, ?_⟩
  · lia
  · rw [Int.toNat_natCast, hstart, hposition, Text.drop_take_of_rows_eq hrows hinside]
  · intro c hc hne
    rw [Int.toNat_natCast, hposition] at hc
    have hlt := Text.lt_row_of_getElem?_ne hrows hinside hc hne
    rw [← Text.getElem?_of_lt_row hrows hlt, hc]
  · intro hend
    rw [Int.toNat_natCast, Int.ofNat_inj, hposition] at hend
    exact (Text.eq_row_end hrows hinside hend).symm

theorem excerpt_marker_below_delimiter_and_letter :
    let text : Text := "ab\n\ncd"
    ((0 : Int) ≤ 2 ∧ (2 : Int) ≤ text.length ∧ (0 : Int) ≤ 1 ∧
      text[2]? = some Text.delimiter ∧
      ∃ (column : Nat) (row before after : Text),
        (ofText text).excerpt text 2 1 "^" =
          .ok (before ++ row ++ Text.delimiter ::
            (List.replicate column ' ' ++ "^" ++ after)) ∧ row.length = column) ∧
    ((0 : Int) ≤ 5 ∧ (5 : Int) ≤ text.length ∧ (0 : Int) ≤ 0 ∧ text[5]? = some 'd' ∧
      ∃ (column : Nat) (row before after : Text),
        (ofText text).excerpt text 5 0 "^" =
          .ok (before ++ row ++ Text.delimiter ::
            (List.replicate column ' ' ++ "^" ++ after)) ∧ row[column]? = some 'd') := by
  intro text
  constructor
  · rcases excerpt_marker_below text "^" (by decide : (0 : Int) ≤ 2) (by decide)
      (by decide : (0 : Int) ≤ 1) with
      ⟨_, column, row, before, after, _, _, _, hexcerpt, _, _, _, _, _, hend⟩
    exact ⟨by decide, by decide, by decide, by decide, column, row, before, after, hexcerpt,
      hend (Or.inr (by decide))⟩
  · rcases excerpt_marker_below text "^" (by decide : (0 : Int) ≤ 5) (by decide)
      (by decide : (0 : Int) ≤ 0) with
      ⟨_, column, row, before, after, _, _, _, hexcerpt, _, _, _, _, hchar, _⟩
    exact ⟨by decide, by decide, by decide, by decide, column, row, before, after, hexcerpt,
      hchar 'd' (by decide) (by decide)⟩

end LineMap
end TextCoordinates
