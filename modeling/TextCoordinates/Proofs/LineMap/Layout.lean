import TextCoordinates.LineMap.Scan
import TextCoordinates.Proofs.Text.Rows

/-!
# Laying out rows

The rows of a text, put one after the other, give a table of lines without any scan.
The scan of a text builds the layout of its rows.
-/

namespace TextCoordinates
namespace LineMap

open Text (rows rowExtent closeRows)

/-- The lines of rows that follow each other from an offset on. -/
def layout (number start : Nat) : List Text → List Line
  | [] => []
  | row :: later =>
      ⟨number, ⟨start, start + rowExtent row later, Nat.le_add_right start _⟩⟩ ::
        layout (number + 1) (start + rowExtent row later) later

@[simp] theorem length_layout (number start : Nat) (pieces : List Text) :
    (layout number start pieces).length = pieces.length := by
  induction pieces generalizing number start with
  | nil =>
      rfl
  | cons row later ih =>
      rw [layout, List.length_cons, List.length_cons, ih]

theorem line_eq_of_bounds {line : Line} {number : Nat} {span : Span}
    (hnumber : line.number = number) (hstart : line.span.start = span.start)
    (hstop : line.span.stop = span.stop) : line = ⟨number, span⟩ := by
  have hspan := Span.eq_of_bounds hstart hstop
  cases line
  cases hnumber
  cases hspan
  rfl

theorem cons_eq_layout_cons {number start : Nat} {row : Text} {later : List Text}
    {line : Line} {rest : List Line} (hnumber : line.number = number)
    (hstart : line.span.start = start)
    (hstop : line.span.stop = start + rowExtent row later)
    (hrest : rest = layout (number + 1) line.span.stop later) :
    line :: rest = layout number start (row :: later) := by
  rw [hrest, hstop, layout]
  exact congrArg (· :: layout (number + 1) (start + rowExtent row later) later)
    (line_eq_of_bounds hnumber hstart hstop)

/-- An entry of a layout splits the rows into those before, its own and those behind. -/
theorem exists_row_of_getElem?_layout {number start i : Nat} {pieces : List Text} {line : Line}
    (h : (layout number start pieces)[i]? = some line) :
    ∃ front row back, pieces = front ++ row :: back ∧ front.length = i ∧
      line.span.start = start + (closeRows front).length ∧
      line.span.stop = line.span.start + rowExtent row back := by
  induction pieces generalizing number start i with
  | nil =>
      cases h
  | cons row later ih =>
      cases i with
      | zero =>
          cases h
          exact ⟨[], row, later, rfl, rfl, rfl, rfl⟩
      | succ i =>
          rcases ih h with ⟨front, found, back, hlater, hlength, hstart, hstop⟩
          have hne : later ≠ [] := by
            rw [hlater]
            exact List.append_ne_nil_of_right_ne_nil front (List.cons_ne_nil found back)
          refine ⟨row :: front, found, back, ?_, ?_, ?_, hstop⟩
          · rw [hlater]
            rfl
          · rw [List.length_cons, hlength]
          · rw [hstart, Text.rowExtent_of_ne_nil row hne, Text.closeRows_cons,
              List.length_append, List.length_cons]
            lia

end LineMap

/-!
## The scan

The open line of a scan has read a row without a delimiter.  What follows goes on
with that row, so the final table can be foretold: the closed lines stay as they are,
and the rest is laid out from the start of the open line on.  Every character that is
read keeps the forecast.
-/

namespace Scan

open LineMap (layout)
open Text (rows rowExtent)

structure HasOpened (scan : Scan) (opened : Text) : Prop where
  notMem : Text.delimiter ∉ opened
  stop_eq : scan.extent.stop = scan.extent.start + opened.length

def forecast (scan : Scan) (opened rest : Text) : List Line :=
  scan.closed.toList ++ layout scan.closed.size scan.extent.start (rows (opened ++ rest))

theorem hasOpened_start : start.HasOpened [] :=
  ⟨List.not_mem_nil, rfl⟩

theorem HasOpened.forecast_nil {scan : Scan} {opened : Text} (h : scan.HasOpened opened) :
    scan.forecast opened [] = scan.lines.toList := by
  have hextent : scan.extent =
      ⟨scan.extent.start, scan.extent.start + rowExtent opened [], Nat.le_add_right _ _⟩ :=
    Span.eq_of_bounds rfl h.stop_eq
  rw [forecast, List.append_nil, Text.rows_of_notMem h.notMem, lines, Array.toList_push]
  show scan.closed.toList ++ [⟨scan.closed.size, _⟩] =
    scan.closed.toList ++ [⟨scan.closed.size, scan.extent⟩]
  rw [← hextent]

theorem HasOpened.feed_delimiter {scan : Scan} {opened : Text} (h : scan.HasOpened opened) :
    (scan.feed Text.delimiter).HasOpened [] ∧
      ∀ rest, (scan.feed Text.delimiter).forecast [] rest =
        scan.forecast opened (Text.delimiter :: rest) := by
  rw [Scan.feed_delimiter]
  refine ⟨⟨List.not_mem_nil, rfl⟩, ?_⟩
  intro rest
  rcases Text.exists_rows_eq_cons rest with ⟨next, later, hrest⟩
  have hgrow : scan.extent.grow =
      ⟨scan.extent.start, scan.extent.start + rowExtent opened (next :: later),
        Nat.le_add_right _ _⟩ := by
    refine Span.eq_of_bounds rfl ?_
    show scan.extent.stop + 1 = scan.extent.start + (opened.length + 1)
    rw [h.stop_eq, Nat.add_assoc]
  simp only [forecast, openLine, hgrow, Text.rows_append_delimiter h.notMem, List.nil_append,
    hrest, Array.toList_push, Array.size_push, List.append_assoc]
  rfl

theorem HasOpened.feed_of_ne {scan : Scan} {opened : Text} (h : scan.HasOpened opened)
    {c : Char} (hc : c ≠ Text.delimiter) :
    (scan.feed c).HasOpened (opened ++ [c]) ∧
      ∀ rest, (scan.feed c).forecast (opened ++ [c]) rest =
        scan.forecast opened (c :: rest) := by
  rw [Scan.feed_of_ne scan hc]
  refine ⟨⟨?_, ?_⟩, ?_⟩
  · intro hmem
    rcases List.mem_append.mp hmem with hmem | hmem
    · exact h.notMem hmem
    · exact hc (List.mem_singleton.mp hmem).symm
  · rw [List.length_append]
    show scan.extent.stop + 1 = scan.extent.start + (opened.length + 1)
    rw [h.stop_eq, Nat.add_assoc]
  · intro rest
    rw [forecast, forecast, List.append_assoc]
    rfl

theorem HasOpened.lines_feedAll {scan : Scan} {opened : Text} (h : scan.HasOpened opened)
    (text : Text) : (scan.feedAll text).lines.toList = scan.forecast opened text := by
  induction text generalizing scan opened with
  | nil =>
      exact h.forecast_nil.symm
  | cons c rest ih =>
      rw [feedAll_cons]
      by_cases hc : c = Text.delimiter
      · subst hc
        rcases h.feed_delimiter with ⟨hnext, hforecast⟩
        rw [ih hnext, hforecast]
      · rcases h.feed_of_ne hc with ⟨hnext, hforecast⟩
        rw [ih hnext, hforecast]

end Scan

namespace LineMap

open Text (rows rowExtent closeRows)

theorem toList_ofText (text : Text) :
    (ofText text).toList = layout 0 0 (rows text) :=
  Scan.hasOpened_start.lines_feedAll text

/-- A line of the map of a text splits its rows around the row of that line. -/
theorem exists_row_of_getElem?_ofText {text : Text} {i : Nat} {line : Line}
    (h : (ofText text).toList[i]? = some line) :
    ∃ front row back, rows text = front ++ row :: back ∧ front.length = i ∧
      line.span.start = (closeRows front).length ∧
      line.span.stop = line.span.start + rowExtent row back := by
  rw [toList_ofText] at h
  rcases exists_row_of_getElem?_layout h with ⟨front, row, back, hrows, hlength, hstart, hstop⟩
  rw [Nat.zero_add] at hstart
  exact ⟨front, row, back, hrows, hlength, hstart, hstop⟩

end LineMap
end TextCoordinates
