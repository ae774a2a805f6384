import TextCoordinates.LineMap.Input
import TextCoordinates.Proofs.LineMap.Counters
import TextCoordinates.Proofs.LineMap.Layout
import TextCoordinates.Proofs.LineMap.Tiling

/-!
# The line table of a text

A table belongs to a text if it is a numbered tiling up to the end of the text and
delimiters stand where lines end: one at the end of every line but the last, and none
in the last.  Exactly one table belongs to a text, and the scan builds it.
-/

namespace TextCoordinates
namespace LineMap

/-- The lines of a text from an offset on, numbered from a first number on. -/
structure IsTableFrom (number start : Nat) (text : Text) (lines : List Line) : Prop where
  ne_nil : lines ≠ []
  numbered : Numbered number lines
  tiles : Tiles start lines
  stop_eq : ∀ line, lines.getLast? = some line → line.span.stop = text.length
  closed : ∀ line ∈ lines.dropLast,
    (line.extract text).count Text.delimiter = 1 ∧
      (line.extract text).getLast? = some Text.delimiter
  opened : ∀ line, lines.getLast? = some line → Text.delimiter ∉ line.extract text

/-- The line table of a text: all of its lines, from line zero at offset zero on. -/
def IsTable (text : Text) (lines : List Line) : Prop :=
  IsTableFrom 0 0 text lines

theorem isTableFrom_singleton {number start : Nat} {text : Text} {line : Line} :
    IsTableFrom number start text [line] ↔
      line.number = number ∧ line.span.start = start ∧ line.span.stop = text.length ∧
        Text.delimiter ∉ line.extract text := by
  constructor
  · intro h
    exact ⟨(numbered_cons.mp h.numbered).left, (tiles_cons.mp h.tiles).left,
      h.stop_eq line rfl, h.opened line rfl⟩
  · intro h
    rcases h with ⟨hnumber, hstart, hstop, hopened⟩
    refine ⟨List.cons_ne_nil line [], ?_, ?_, ?_, ?_, ?_⟩
    · exact numbered_cons.mpr ⟨hnumber, numbered_nil (number + 1)⟩
    · exact tiles_cons.mpr ⟨hstart, tiles_nil line.span.stop⟩
    · intro last hlast
      cases hlast
      exact hstop
    · intro other hother
      cases hother
    · intro last hlast
      cases hlast
      exact hopened

theorem isTableFrom_cons_cons {number start : Nat} {text : Text} {line next : Line}
    {rest : List Line} :
    IsTableFrom number start text (line :: next :: rest) ↔
      line.number = number ∧ line.span.start = start ∧
        ((line.extract text).count Text.delimiter = 1 ∧
          (line.extract text).getLast? = some Text.delimiter) ∧
        IsTableFrom (number + 1) line.span.stop text (next :: rest) := by
  constructor
  · intro h
    rcases numbered_cons.mp h.numbered with ⟨hnumber, hnumbered⟩
    rcases tiles_cons.mp h.tiles with ⟨hstart, htiles⟩
    have hclosed := h.closed
    rw [List.dropLast_cons_cons] at hclosed
    refine ⟨hnumber, hstart, hclosed line List.mem_cons_self, ?_⟩
    refine ⟨List.cons_ne_nil next rest, hnumbered, htiles, ?_, ?_, ?_⟩
    · intro last hlast
      exact h.stop_eq last hlast
    · intro other hother
      exact hclosed other (List.mem_cons_of_mem line hother)
    · intro last hlast
      exact h.opened last hlast
  · intro h
    rcases h with ⟨hnumber, hstart, hclosed, hrest⟩
    refine ⟨List.cons_ne_nil line (next :: rest), ?_, ?_, ?_, ?_, ?_⟩
    · exact numbered_cons.mpr ⟨hnumber, hrest.numbered⟩
    · exact tiles_cons.mpr ⟨hstart, hrest.tiles⟩
    · intro last hlast
      exact hrest.stop_eq last hlast
    · intro other hother
      rw [List.dropLast_cons_cons] at hother
      cases hother with
      | head =>
          exact hclosed
      | tail _ hother =>
          exact hrest.closed other hother
    · intro last hlast
      exact hrest.opened last hlast

/-!
## Uniqueness

The end of a closed line is the first delimiter from its start on, so the lines from
an offset on are the layout of the rows of what follows.
-/

theorem IsTableFrom.start_le_length {number start : Nat} {text : Text} {lines : List Line}
    (h : IsTableFrom number start text lines) : start ≤ text.length := by
  induction lines generalizing number start with
  | nil =>
      exact absurd rfl h.ne_nil
  | cons line rest ih =>
      have hle := line.span.start_le_stop
      cases rest with
      | nil =>
          rcases isTableFrom_singleton.mp h with ⟨_hnumber, hstart, hstop, _hopened⟩
          lia
      | cons next rest =>
          rcases isTableFrom_cons_cons.mp h with ⟨_hnumber, hstart, _hclosed, hrest⟩
          have hstop := ih hrest
          lia

/-- A closed line reads a row and the delimiter behind it. -/
theorem exists_row_of_closed_line {text : Text} {line : Line}
    (hstop : line.span.stop ≤ text.length)
    (hcount : (line.extract text).count Text.delimiter = 1)
    (hlast : (line.extract text).getLast? = some Text.delimiter) :
    ∃ row, Text.delimiter ∉ row ∧ line.span.stop = line.span.start + (row.length + 1) ∧
      text.drop line.span.start = row ++ Text.delimiter :: text.drop line.span.stop := by
  rcases Text.exists_row_of_closed hcount hlast with ⟨row, hrow, hpiece⟩
  have hsplit := line.span.extract_append_drop text
  have hlength := line.span.length_extract text
  rw [← Line.extract, hpiece] at hsplit hlength
  refine ⟨row, hrow, ?_, ?_⟩
  · have hle := line.span.start_le_stop
    rw [List.length_append, List.length_singleton, Span.length] at hlength
    lia
  · rw [← hsplit, List.append_assoc, List.singleton_append]

theorem IsTableFrom.eq_layout {number start : Nat} {text : Text} {lines : List Line}
    (h : IsTableFrom number start text lines) :
    lines = layout number start (Text.rows (text.drop start)) := by
  induction lines generalizing number start with
  | nil =>
      exact absurd rfl h.ne_nil
  | cons line rest ih =>
      cases rest with
      | nil =>
          have hle := h.start_le_length
          rcases isTableFrom_singleton.mp h with ⟨hnumber, hstart, hstop, hopened⟩
          rw [Line.extract, Span.extract_eq_drop hstop, hstart] at hopened
          have hextent : line.span.stop = start + (text.drop start).length := by
            rw [hstop, List.length_drop]
            exact (Nat.add_sub_cancel' hle).symm
          rw [Text.rows_of_notMem hopened]
          exact cons_eq_layout_cons hnumber hstart hextent rfl
      | cons next rest =>
          rcases isTableFrom_cons_cons.mp h with ⟨hnumber, hstart, hclosed, hrest⟩
          rcases exists_row_of_closed_line hrest.start_le_length hclosed.left hclosed.right with
            ⟨row, hrow, hstop, hdrop⟩
          rcases Text.exists_rows_eq_cons (text.drop line.span.stop) with ⟨first, later, hlater⟩
          have htail := ih hrest
          rw [hstart] at hstop hdrop
          rw [hlater] at htail
          rw [hdrop, Text.rows_append_delimiter hrow, hlater]
          exact cons_eq_layout_cons hnumber hstart hstop htail

/-!
## Existence

The layout of rows has its delimiters where the joined rows have them.
-/

theorem isTableFrom_layout {number start : Nat} {text : Text} {pieces : List Text}
    (hne : pieces ≠ []) (hpieces : ∀ row ∈ pieces, Text.delimiter ∉ row)
    (hle : start ≤ text.length) (hdrop : text.drop start = Text.joinRows pieces) :
    IsTableFrom number start text (layout number start pieces) := by
  induction pieces generalizing number start with
  | nil =>
      exact absurd rfl hne
  | cons row later ih =>
      have hrow := hpieces row List.mem_cons_self
      have hlength := congrArg List.length hdrop
      rw [List.length_drop] at hlength
      cases later with
      | nil =>
          have hjoin : Text.joinRows [row] = row := List.intercalate_singleton
          rw [hjoin] at hdrop hlength
          refine isTableFrom_singleton.mpr ⟨rfl, rfl, ?_, ?_⟩
          · show start + row.length = text.length
            lia
          · intro hmem
            rw [Line.extract, Span.extract] at hmem
            have hread := List.mem_of_mem_take hmem
            rw [hdrop] at hread
            exact hrow hread
      | cons next later =>
          rw [Text.joinRows_cons_cons] at hdrop hlength
          rw [List.length_append, List.length_cons] at hlength
          have hread : text.drop start =
              (row ++ [Text.delimiter]) ++ Text.joinRows (next :: later) := by
            rw [hdrop, List.append_assoc, List.singleton_append]
          have hextent : start + (row.length + 1) - start = (row ++ [Text.delimiter]).length := by
            rw [Nat.add_sub_cancel_left, List.length_append, List.length_singleton]
          have hcut : Span.extract ⟨start, start + Text.rowExtent row (next :: later),
                Nat.le_add_right start _⟩ text = row ++ [Text.delimiter] ∧
              text.drop (start + (row.length + 1)) = Text.joinRows (next :: later) :=
            Span.extract_of_drop_eq hread hextent
          refine isTableFrom_cons_cons.mpr ⟨rfl, rfl, ?_, ?_⟩
          · rw [Line.extract, hcut.left]
            exact Text.closed_of_notMem hrow
          · refine ih (List.cons_ne_nil next later) ?_ ?_ hcut.right
            · intro other hother
              exact hpieces other (List.mem_cons_of_mem row hother)
            · show start + (row.length + 1) ≤ text.length
              lia

/-!
## The table that is built
-/

theorem isTable_iff {text : Text} {lines : List Line} :
    IsTable text lines ↔ lines = (ofText text).toList := by
  rw [toList_ofText]
  constructor
  · intro h
    exact IsTableFrom.eq_layout h
  · intro h
    rw [h]
    refine isTableFrom_layout (Text.rows_ne_nil text) ?_ (Nat.zero_le _) ?_
    · intro row hrow
      exact Text.notMem_of_mem_rows hrow
    · exact (Text.joinRows_rows text).symm

theorem isTable_ofText (text : Text) : IsTable text (ofText text).toList :=
  isTable_iff.mpr rfl

theorem isTiling_ofText (text : Text) : IsTiling (ofText text).toList :=
  ⟨(isTable_ofText text).numbered, (isTable_ofText text).tiles⟩

theorem size_ofText (text : Text) : (ofText text).size = text.length :=
  (isTable_ofText text).stop_eq _ (getLast?_toList (ofText text))

theorem count_ofText (text : Text) :
    (ofText text).count = text.count Text.delimiter + 1 := by
  rw [← length_toList, toList_ofText, length_layout, Text.length_rows]

/-- Building never fails, checked or not, and gives the only table of the text. -/
theorem ofText_only_table (text : Text) :
    (∃ records, ofInput (.string text) = .ok (ofText text, records)) ∧
      Counters.build text = .ok (ofText text) ∧
      IsTable text (ofText text).toList ∧
      (∀ lines, IsTable text lines → lines = (ofText text).toList) ∧
      (ofText text).count = text.count Text.delimiter + 1 ∧
      (ofText text).size = text.length := by
  refine ⟨⟨_, ofInput_string text⟩, Counters.build_eq_ok text, isTable_ofText text, ?_,
    count_ofText text, size_ofText text⟩
  intro lines hlines
  exact isTable_iff.mp hlines

end LineMap
end TextCoordinates
