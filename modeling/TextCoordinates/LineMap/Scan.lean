import TextCoordinates.LineMap.Basic

/-!
# Scanning a text for its lines

The scan reads a text once, character by character.  It keeps the lines that are
closed so far and the span of the line that is still open.  A delimiter belongs to
the line that it closes.  When the text ends, the open line is the last one, even
if it is empty.
-/

namespace TextCoordinates

structure Scan where
  closed : Array Line
  extent : Span
deriving DecidableEq

namespace Scan

def start : Scan :=
  ⟨#[], .point 0⟩

/-- The line still open, numbered by the lines before it. -/
def openLine (scan : Scan) (extent : Span) : Line :=
  ⟨scan.closed.size, extent⟩

def feed (scan : Scan) (c : Char) : Scan :=
  let extent := scan.extent.grow
  if c = Text.delimiter then
    ⟨scan.closed.push (scan.openLine extent), .point extent.stop⟩
  else
    ⟨scan.closed, extent⟩

def feedAll (scan : Scan) (text : Text) : Scan :=
  text.foldl feed scan

def lines (scan : Scan) : Array Line :=
  scan.closed.push (scan.openLine scan.extent)

theorem feed_delimiter (scan : Scan) :
    scan.feed Text.delimiter =
      ⟨scan.closed.push (scan.openLine scan.extent.grow), .point scan.extent.grow.stop⟩ := by
  simp [feed]

theorem feed_of_ne (scan : Scan) {c : Char} (h : c ≠ Text.delimiter) :
    scan.feed c = ⟨scan.closed, scan.extent.grow⟩ := by
  simp [feed, h]

@[simp] theorem feedAll_nil (scan : Scan) : scan.feedAll [] = scan := rfl

@[simp] theorem feedAll_cons (scan : Scan) (c : Char) (rest : Text) :
    scan.feedAll (c :: rest) = (scan.feed c).feedAll rest := rfl

theorem feed_stop (scan : Scan) (c : Char) :
    (scan.feed c).extent.stop = scan.extent.stop + 1 := by
  unfold feed
  split
  · rfl
  · rfl

theorem feedAll_stop (scan : Scan) (text : Text) :
    (scan.feedAll text).extent.stop = scan.extent.stop + text.length := by
  induction text generalizing scan with
  | nil =>
      rfl
  | cons c rest ih =>
      rw [feedAll_cons, ih, feed_stop, List.length_cons]
      omega

theorem lines_pos (scan : Scan) : 0 < scan.lines.size := by
  simp [lines]

end Scan

/-!
## The map of a text

Building a map leaves one record, with the number of lines and the number of
characters that the scan has read.
-/

structure BuildRecord where
  lineCount : Nat
  size : Nat
deriving DecidableEq

namespace BuildRecord

def message (record : BuildRecord) : Text :=
  "Built line map: " ++ Text.Decimal.ofNat record.lineCount ++ " line(s), "
    ++ Text.Decimal.ofNat record.size ++ " character(s)"

end BuildRecord

namespace Scan

def map (scan : Scan) : LineMap :=
  ⟨scan.lines, scan.lines_pos⟩

def record (scan : Scan) : BuildRecord :=
  ⟨scan.lines.size, scan.extent.stop⟩

end Scan

namespace LineMap

def build (text : Text) : LineMap × List BuildRecord :=
  let scan := Scan.start.feedAll text
  (scan.map, [scan.record])

def ofText (text : Text) : LineMap :=
  (build text).1

example : (ofText "a\n\nb\n").toList =
    [⟨0, .joining 0 2⟩, ⟨1, .joining 2 3⟩, ⟨2, .joining 3 5⟩, ⟨3, .point 5⟩] := by decide

end LineMap
end TextCoordinates
