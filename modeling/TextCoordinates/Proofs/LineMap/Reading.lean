import TextCoordinates.Proofs.LineMap.Correspondence
import TextCoordinates.Proofs.LineMap.Table
import TextCoordinates.Proofs.Text.Reading

/-!
# Looking up a text by reading it

The host of a position in the map of a text is the line of one row, and the position
is inside of that row or at its end.  So a lookup gives what reading the text from
the position backwards and forwards gives.
-/

namespace TextCoordinates
namespace LineMap

open Text (rows rowExtent closeRows)

/-- The host of a position splits the rows of the text around the row it is the line of. -/
theorem exists_row_of_hosts {text : Text} {position : Int} {place : Nat} {line : Line}
    (h : (ofText text).Hosts position place line) :
    ∃ front row back, rows text = front ++ row :: back ∧ front.length = place ∧
      line.span.start = (closeRows front).length ∧
      line.span.stop = line.span.start + rowExtent row back ∧
      position ≤ line.span.start + row.length := by
  rcases exists_row_of_getElem?_ofText h.entry with
    ⟨front, row, back, hrows, hlength, hstart, hstop⟩
  refine ⟨front, row, back, hrows, hlength, hstart, hstop, ?_⟩
  have hle := h.le_stop
  cases back with
  | nil =>
      rw [rowExtent] at hstop
      lia
  | cons next back =>
      rw [rowExtent] at hstop
      have hcount : place + 1 < (ofText text).count := by
        rw [count_ofText, ← Text.length_rows, hrows, List.length_append, hlength,
          List.length_cons, List.length_cons]
        lia
      rcases h.inside with hinside | hend
      · lia
      · lia

/-- A lookup in the map of a text agrees with reading the text. -/
theorem locate_ofText (text : Text) {position : Int} (hlow : 0 ≤ position)
    (hhigh : position ≤ text.length) :
    ∃ location, (ofText text).locate position = .ok location ∧
      location.number = (text.take position.toNat).count Text.delimiter ∧
      location.column = position - text.rowStart position.toNat ∧
      location.line.span.start = text.rowStart position.toNat ∧
      location.line.span.stop = text.rowStop position.toNat := by
  have htiling := isTiling_ofText text
  rw [← size_ofText] at hhigh
  rcases exists_hosts_of_tiles htiling.tiles hlow hhigh with ⟨place, line, hhost, hlocate⟩
  rcases exists_row_of_hosts hhost with
    ⟨front, row, back, hrows, hplace, hstart, hstop, hinside⟩
  have hfirst := hhost.start_le
  have hoffset : ∃ offset, offset ≤ row.length ∧
      position.toNat = (closeRows front).length + offset := by
    exact ⟨position.toNat - (closeRows front).length, by lia, by lia⟩
  rcases hoffset with ⟨offset, hle, hposition⟩
  have hrowStart : text.rowStart position.toNat = line.span.start := by
    rw [hposition, Text.rowStart_of_rows_eq hrows hle, hstart]
  have hrowStop : text.rowStop position.toNat = line.span.stop := by
    rw [hposition, Text.rowStop_of_rows_eq hrows hle, hstop, hstart]
  have hcount : (text.take position.toNat).count Text.delimiter = place := by
    rw [hposition, Text.count_take_of_rows_eq hrows hle, hplace]
  refine ⟨_, hlocate, ?_, ?_, hrowStart.symm, hrowStop.symm⟩
  · rw [hcount]
    exact hhost.number_eq htiling.numbered
  · rw [hrowStart]
    rfl

theorem locate_ofText_empty_row :
    let text : Text := "a\n\nb\n"
    (0 : Int) ≤ 2 ∧ (2 : Int) ≤ text.length ∧
      ∃ location, (ofText text).locate 2 = .ok location ∧
        location.number = 1 ∧ location.column = 0 ∧
        location.line.span.start = 2 ∧ location.line.span.stop = 3 := by
  intro text
  refine ⟨by decide, by decide, ?_⟩
  exact locate_ofText text (by decide) (by decide)

end LineMap
end TextCoordinates
