import TextCoordinates.Proofs.LineMap.Table

/-!
# Texts put together

The map of two texts in a row is made of the maps of both.  The last line of the first
text and the first line of the second become one line.  The lines before it stay as
they are, and the lines behind it are shifted past the first text.
-/

namespace TextCoordinates

/-!
## Shifting
-/

def Span.shift (span : Span) (distance : Nat) : Span :=
  ⟨span.start + distance, span.stop + distance,
    Nat.add_le_add_right span.start_le_stop distance⟩

/-- The same line behind a number of other lines, which fill a distance. -/
def Line.shift (line : Line) (before distance : Nat) : Line :=
  ⟨line.number + before, line.span.shift distance⟩

namespace LineMap

open Text (rows rowExtent closeRows)

theorem map_shift_layout (number start before distance : Nat) (pieces : List Text) :
    (layout number start pieces).map (·.shift before distance) =
      layout (number + before) (start + distance) pieces := by
  induction pieces generalizing number start with
  | nil =>
      rfl
  | cons row later ih =>
      have hstop : start + rowExtent row later + distance =
          start + distance + rowExtent row later :=
        Nat.add_right_comm start _ distance
      have hrest := ih (number + 1) (start + rowExtent row later)
      rw [Nat.add_right_comm number 1 before] at hrest
      rw [layout, List.map_cons]
      exact cons_eq_layout_cons rfl rfl hstop hrest

/-!
## Closed rows

The lines of the rows in front of a row do not depend on that row.
-/

/-- The lines of rows from an offset on, each of which has its delimiter. -/
def closedLayout (number start : Nat) : List Text → List Line
  | [] => []
  | row :: later =>
      ⟨number, ⟨start, start + (row.length + 1), Nat.le_add_right start _⟩⟩ ::
        closedLayout (number + 1) (start + (row.length + 1)) later

/-- A row in front of another one has its delimiter, whatever that other row is. -/
theorem layout_append_cons (number start : Nat) (front : List Text) (row : Text)
    (back : List Text) :
    layout number start (front ++ row :: back) =
      closedLayout number start front ++
        layout (number + front.length) (start + (closeRows front).length) (row :: back) := by
  induction front generalizing number start with
  | nil =>
      rfl
  | cons first front ih =>
      have hextent : rowExtent first (front ++ row :: back) = first.length + 1 :=
        Text.rowExtent_of_ne_nil first (by simp)
      have hnumber : number + 1 + front.length = number + (first :: front).length := by
        rw [List.length_cons]
        lia
      have hstart : start + (first.length + 1) + (closeRows front).length =
          start + (closeRows (first :: front)).length := by
        rw [Text.closeRows_cons, List.length_append, List.length_cons]
        lia
      have htail := ih (number + 1) (start + (first.length + 1))
      rw [hnumber, hstart] at htail
      simp only [List.cons_append, layout, closedLayout, hextent, htail]

theorem toList_ofText_of_rows_eq {text : Text} {front : List Text} {row : Text}
    {back : List Text} (h : rows text = front ++ row :: back) :
    (ofText text).toList =
      closedLayout 0 0 front ++ layout front.length (closeRows front).length (row :: back) := by
  rw [toList_ofText, h, layout_append_cons, Nat.zero_add, Nat.zero_add]

/-!
## Two texts
-/

/-- Building a map commutes with putting texts together. -/
theorem toList_ofText_append (a b : Text) :
    let before := (ofText a).count - 1
    let last := (ofText a).toList.getLast (toList_ne_nil _)
    let first := (ofText b).toList.head (toList_ne_nil _)
    ∃ merged : Line, merged.number = before ∧
      merged.span.start = last.span.start ∧
      merged.span.stop = a.length + first.span.stop ∧
      (ofText (a ++ b)).toList = (ofText a).toList.dropLast ++
        merged :: (ofText b).toList.tail.map (·.shift before a.length) := by
  intro before last first
  rcases Text.exists_rows_eq_concat a with ⟨front, row, ha⟩
  rcases Text.exists_rows_eq_cons b with ⟨next, later, hb⟩
  have htableA := toList_ofText_of_rows_eq ha
  have htableB : (ofText b).toList = layout 0 0 (next :: later) := by
    rw [toList_ofText, hb]
  have htail : (ofText b).toList.tail = layout 1 (rowExtent next later) later := by
    rw [htableB, layout, List.tail_cons, Nat.zero_add, Nat.zero_add]
  have htable := toList_ofText_of_rows_eq (Text.rows_append ha hb)
  have hlength : a.length = (closeRows front).length + row.length := by
    rw [Text.eq_around_row ha]
    simp [Text.openRows]
  have hbefore : before = front.length := by
    show (ofText a).count - 1 = front.length
    rw [← length_toList, toList_ofText, length_layout, ha, List.length_append]
    rfl
  have hlast : last.span.start = (closeRows front).length := by
    simp only [last, htableA, layout, List.getLast_concat]
  have hfirst : first.span.stop = rowExtent next later := by
    simp only [first, htableB, layout, List.head_cons, Nat.zero_add]
  refine ⟨⟨front.length, ⟨(closeRows front).length,
    (closeRows front).length + rowExtent (row ++ next) later, Nat.le_add_right _ _⟩⟩, ?_,
    hlast.symm, ?_, ?_⟩
  · rw [hbefore]
  · show (closeRows front).length + rowExtent (row ++ next) later = a.length + first.span.stop
    rw [hfirst, hlength, Text.rowExtent_append, Nat.add_assoc]
  · have hshift : rowExtent next later + a.length =
        (closeRows front).length + rowExtent (row ++ next) later := by
      rw [hlength, Text.rowExtent_append]
      lia
    rw [htable, htableA, htail, hbefore, map_shift_layout, hshift, Nat.add_comm 1, layout,
      layout, layout, List.dropLast_concat]

end LineMap
end TextCoordinates
