import TextCoordinates.LineMap.Scan

/-!
# Scanning with counters

A scan can also be kept with counters for the open line: its number, its start and
the end of what was read.  Nothing about counters makes sure that they are bounds of
a span, so every line is checked as it is closed.  The counters follow the scan step
by step, and no check fails.
-/

namespace TextCoordinates

structure Counters where
  lines : List Line
  number : Int
  start : Int
  stop : Int
deriving DecidableEq

namespace Counters

def zero : Counters :=
  ⟨[], 0, 0, 0⟩

/-- The lines with the open one, if its bounds are accepted. -/
def close (counters : Counters) : Except Violation (List Line) := do
  let line ← Line.ofBounds counters.number counters.start counters.stop
  pure (counters.lines ++ [line])

/-- Reads a character with its offset. -/
def feed (counters : Counters) (entry : Char × Nat) : Except Violation Counters :=
  let extended := { counters with stop := counters.stop + 1 }
  if entry.1 = Text.delimiter then do
    let lines ← extended.close
    pure ⟨lines, counters.number + 1, entry.2 + 1, entry.2 + 1⟩
  else
    pure extended

def build (text : Text) : Except Violation LineMap := do
  let counters ← text.zipIdx.foldlM feed zero
  let lines ← counters.close
  LineMap.ofLines lines

/-!
## Following a scan

The offset of the next character is the end of what the scan has read.
-/

def ofScan (scan : Scan) : Counters :=
  ⟨scan.closed.toList, scan.closed.size, scan.extent.start, scan.extent.stop⟩

theorem close_of_span (lines : List Line) (number : Int) (span : Span) :
    (⟨lines, number, span.start, span.stop⟩ : Counters).close =
      .ok (lines ++ [⟨number, span⟩]) := by
  simp only [close, Line.ofBounds, Span.ofBounds_bounds]
  rfl

theorem close_ofScan (scan : Scan) : (ofScan scan).close = .ok scan.lines.toList := by
  rw [ofScan, close_of_span, Scan.lines, Array.toList_push]
  rfl

theorem feed_ofScan (scan : Scan) (c : Char) :
    (ofScan scan).feed (c, scan.extent.stop) = .ok (ofScan (scan.feed c)) := by
  by_cases hc : c = Text.delimiter
  · subst hc
    have hclose := close_of_span scan.closed.toList scan.closed.size scan.extent.grow
    rw [Scan.feed_delimiter, feed, if_pos rfl]
    show (do
      let lines ← (⟨scan.closed.toList, scan.closed.size, scan.extent.grow.start,
        scan.extent.grow.stop⟩ : Counters).close
      pure _) = _
    rw [hclose]
    simp only [ofScan, Array.toList_push, Array.size_push]
    rfl
  · rw [Scan.feed_of_ne scan hc, feed, if_neg hc]
    rfl

theorem foldlM_feed_ofScan (scan : Scan) (text : Text) :
    (text.zipIdx scan.extent.stop).foldlM feed (ofScan scan) =
      .ok (ofScan (scan.feedAll text)) := by
  induction text generalizing scan with
  | nil =>
      rfl
  | cons c rest ih =>
      have hstop : scan.extent.stop + 1 = (scan.feed c).extent.stop :=
        (scan.feed_stop c).symm
      rw [List.zipIdx_cons, List.foldlM_cons, feed_ofScan, hstop]
      exact ih (scan.feed c)

theorem build_eq_ok (text : Text) : build text = .ok (LineMap.ofText text) := by
  have hfold := foldlM_feed_ofScan Scan.start text
  have hclose := close_ofScan (Scan.start.feedAll text)
  unfold build
  show (do
    let counters ← (text.zipIdx Scan.start.extent.stop).foldlM feed (ofScan Scan.start)
    let lines ← counters.close
    LineMap.ofLines lines) = _
  rw [hfold]
  show (do
    let lines ← (ofScan (Scan.start.feedAll text)).close
    LineMap.ofLines lines) = _
  rw [hclose]
  exact LineMap.ofLines_toList (LineMap.ofText text)

end Counters
end TextCoordinates
