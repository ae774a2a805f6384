import TextCoordinates.Proofs.LineMap.Reading

/-!
# The contents of lines

The lines of the map of a text hold its rows: without their delimiters they are the
rows themselves.  A position of the text lies in one row or at its end, and the lookup
answers with the line of that row.
-/

namespace TextCoordinates
namespace LineMap

open Text (rows rowExtent closeRows openRows)

section

variable {text : Text} {front : List Text} {row : Text} {line : Line}

theorem extract_last_row (h : rows text = front ++ [row])
    (hstart : line.span.start = (closeRows front).length)
    (hstop : line.span.stop = line.span.start + row.length) :
    line.extract text = row := by
  have hlength : line.span.length = row.length := by
    rw [Span.length, hstop, Nat.add_sub_cancel_left]
  have hdrop : text.drop line.span.start = row ++ [] := by
    rw [Text.eq_around_row h, hstart, List.drop_left]
    rfl
  exact (Span.extract_of_drop_eq hdrop hlength).left

theorem extract_closed_row {next : Text} {back : List Text}
    (h : rows text = front ++ row :: next :: back)
    (hstart : line.span.start = (closeRows front).length)
    (hstop : line.span.stop = line.span.start + (row.length + 1)) :
    line.extract text = row ++ [Text.delimiter] := by
  have hlength : line.span.length = (row ++ [Text.delimiter]).length := by
    rw [Span.length, hstop, Nat.add_sub_cancel_left, List.length_append, List.length_singleton]
  have hdrop : text.drop line.span.start =
      (row ++ [Text.delimiter]) ++ (next ++ openRows back) := by
    rw [Text.eq_around_row h, hstart, List.drop_left, Text.openRows_cons, List.append_assoc]
    rfl
  exact (Span.extract_of_drop_eq hdrop hlength).left

theorem content_row {back : List Text} (h : rows text = front ++ row :: back)
    (hstart : line.span.start = (closeRows front).length)
    (hstop : line.span.stop = line.span.start + rowExtent row back) :
    line.content text = row := by
  unfold Line.content
  cases back with
  | nil =>
      rw [extract_last_row h hstart hstop]
      exact Text.dropDelimiter_of_notMem (Text.notMem_row h)
  | cons next back =>
      rw [extract_closed_row h hstart hstop]
      exact Text.dropDelimiter_append_delimiter row

end

/-- What the lines of a map give is known if it is known for the line of every row. -/
theorem toList_ofText_map_eq {text : Text} {read : Line → α} {values : List α}
    (hlength : values.length = (rows text).length)
    (h : ∀ (front : List Text) (row : Text) (back : List Text) (line : Line),
      rows text = front ++ row :: back → line.span.start = (closeRows front).length →
        line.span.stop = line.span.start + rowExtent row back →
          values[front.length]? = some (read line)) :
    (ofText text).toList.map read = values := by
  apply List.ext_getElem?
  intro i
  rw [List.getElem?_map]
  cases hentry : (ofText text).toList[i]? with
  | none =>
      have hle := List.getElem?_eq_none_iff.mp hentry
      rw [toList_ofText, length_layout, ← hlength] at hle
      exact (List.getElem?_eq_none_iff.mpr hle).symm
  | some line =>
      rcases exists_row_of_getElem?_ofText hentry with
        ⟨front, row, back, hrows, hplace, hstart, hstop⟩
      rw [← hplace]
      exact (h front row back line hrows hstart hstop).symm

theorem toList_map_content_ofText (text : Text) :
    (ofText text).toList.map (·.content text) = rows text := by
  apply toList_ofText_map_eq rfl
  intro front row back line hrows hstart hstop
  rw [content_row hrows hstart hstop, Text.getElem?_rows hrows]

/-- Every row but the last is cut out with the delimiter behind it. -/
theorem toList_map_extract_ofText (text : Text) :
    (ofText text).toList.map (·.extract text) =
      (rows text).mapIdx fun i row =>
        if i + 1 < (rows text).length then row ++ [Text.delimiter] else row := by
  apply toList_ofText_map_eq List.length_mapIdx
  intro front row back line hrows hstart hstop
  have hlength : (rows text).length = front.length + back.length + 1 := by
    rw [hrows, List.length_append]
    rfl
  rw [List.getElem?_mapIdx, Text.getElem?_rows hrows, Option.map_some]
  cases back with
  | nil =>
      rw [extract_last_row hrows hstart hstop, if_neg]
      exact Nat.not_lt_of_le (Nat.le_of_eq hlength)
  | cons next back =>
      rw [extract_closed_row hrows hstart hstop, if_pos]
      rw [hlength, List.length_cons]
      lia

/-!
## The row of a position
-/

/-- A position splits the rows of a text around the row that it lies in. -/
theorem exists_row_of_position (text : Text) {position : Nat} (h : position ≤ text.length) :
    ∃ (front : List Text) (row : Text) (back : List Text) (line : Line) (offset : Nat),
      rows text = front ++ row :: back ∧ offset ≤ row.length ∧
      position = (closeRows front).length + offset ∧ line.number = front.length ∧
      (ofText text).locate position = .ok ⟨line, offset⟩ := by
  have htiling := isTiling_ofText text
  have hhigh : (position : Int) ≤ (ofText text).size := by
    rw [size_ofText]
    exact Int.ofNat_le.mpr h
  rcases exists_hosts_of_tiles htiling.tiles (Int.natCast_nonneg position) hhigh with
    ⟨place, line, hhost, hlocate⟩
  rcases exists_row_of_hosts hhost with
    ⟨front, row, back, hrows, hplace, hstart, _hstop, hinside⟩
  have hfirst := hhost.start_le
  have hoffset : (position : Int) - line.span.start =
      ((position - (closeRows front).length : Nat) : Int) := by
    lia
  refine ⟨front, row, back, line, position - (closeRows front).length, hrows, ?_, ?_, ?_, ?_⟩
  · lia
  · lia
  · rw [hplace]
    exact hhost.number_eq htiling.numbered
  · rw [hlocate, hoffset]

end LineMap
end TextCoordinates
