import TextCoordinates.Proofs.LineMap.Table
import TextCoordinates.Proofs.Text.Reading

/-!
# The record of building a map

A record is written when the text ends, from what the scan has at hand then: the number of
lines that it has made, and the end of the open line.  Neither is read off the finished
map or the text.  Kept with counters, the end grows by one with every character, and it is
set to the start of the open line again behind every delimiter.  All the same it is the
number of characters read so far, wherever the text is left, so a record says how many
lines and how many characters the map has.
-/

namespace TextCoordinates

/-!
## What the counters hold

Behind every character the counters tell how the text read so far ends.
-/

namespace Counters

/-- The counters behind a text: its delimiters are counted, one line is made for each, and
the open line goes from behind the last one to the end of the text. -/
structure HaveRead (counters : Counters) (text : Text) : Prop where
  number_eq : counters.number = text.count Text.delimiter
  length_lines : counters.lines.length = text.count Text.delimiter
  start_eq : counters.start = text.rowStart text.length
  stop_eq : counters.stop = text.length

theorem haveRead_zero : zero.HaveRead [] :=
  ⟨rfl, rfl, rfl, rfl⟩

theorem exists_close_eq_ok (counters : Counters) (hstart : 0 ≤ counters.start)
    (hstop : 0 ≤ counters.stop) :
    ∃ line, counters.close = .ok (counters.lines ++ [line]) := by
  rcases Int.eq_ofNat_of_zero_le hstart with ⟨start, hstart⟩
  rcases Int.eq_ofNat_of_zero_le hstop with ⟨stop, hstop⟩
  refine ⟨⟨counters.number, .joining start stop⟩, ?_⟩
  rw [close, Line.ofBounds, hstart, hstop, Span.ofBounds_natCast]
  rfl

theorem HaveRead.feed_delimiter {counters : Counters} {text : Text}
    (h : counters.HaveRead text) :
    ∃ next, counters.feed (Text.delimiter, text.length) = .ok next ∧
      next.HaveRead (text ++ [Text.delimiter]) := by
  have hstart : 0 ≤ counters.start := by
    rw [h.start_eq]
    exact Int.natCast_nonneg _
  have hstop : 0 ≤ counters.stop + 1 := by
    rw [h.stop_eq]
    lia
  have hcount : (text ++ [Text.delimiter]).count Text.delimiter =
      text.count Text.delimiter + 1 := by
    rw [List.count_append, List.count_singleton_self]
  rcases exists_close_eq_ok { counters with stop := counters.stop + 1 } hstart hstop with
    ⟨line, hclose⟩
  refine ⟨⟨counters.lines ++ [line], counters.number + 1, text.length + 1,
    text.length + 1⟩, ?_, ?_, ?_, ?_, ?_⟩
  · rw [feed, if_pos rfl, hclose]
    rfl
  · rw [hcount, h.number_eq]
    rfl
  · rw [hcount, List.length_append, h.length_lines]
    rfl
  · rw [List.length_append, List.length_singleton, Text.rowStart_append_delimiter]
    rfl
  · rw [List.length_append]
    rfl

theorem HaveRead.feed_of_ne {counters : Counters} {text : Text}
    (h : counters.HaveRead text) {c : Char} (hc : c ≠ Text.delimiter) :
    ∃ next, counters.feed (c, text.length) = .ok next ∧ next.HaveRead (text ++ [c]) := by
  have hcount : (text ++ [c]).count Text.delimiter = text.count Text.delimiter := by
    rw [List.count_append, List.count_singleton, if_neg (by rwa [beq_iff_eq]), Nat.add_zero]
  refine ⟨{ counters with stop := counters.stop + 1 }, ?_, ?_, ?_, ?_, ?_⟩
  · rw [feed, if_neg hc]
    rfl
  · rw [hcount]
    exact h.number_eq
  · rw [hcount]
    exact h.length_lines
  · rw [List.length_append, List.length_singleton, Text.rowStart_append_of_ne text hc]
    exact h.start_eq
  · rw [List.length_append, h.stop_eq]
    rfl

/-- No character is refused, and what was read grows by what is still to be read. -/
theorem HaveRead.foldlM_feed {counters : Counters} {text : Text}
    (h : counters.HaveRead text) (rest : Text) :
    ∃ next, (rest.zipIdx text.length).foldlM feed counters = .ok next ∧
      next.HaveRead (text ++ rest) := by
  induction rest generalizing counters text with
  | nil =>
      refine ⟨counters, rfl, ?_⟩
      rwa [List.append_nil]
  | cons c rest ih =>
      have hfeed : ∃ next, counters.feed (c, text.length) = .ok next ∧
          next.HaveRead (text ++ [c]) := by
        by_cases hc : c = Text.delimiter
        · rw [hc]
          exact h.feed_delimiter
        · exact h.feed_of_ne hc
      rcases hfeed with ⟨next, hnext, hread⟩
      rcases ih hread with ⟨last, hlast, hall⟩
      rw [List.length_append, List.length_singleton] at hlast
      rw [List.append_assoc] at hall
      refine ⟨last, ?_, hall⟩
      rw [List.zipIdx_cons, List.foldlM_cons, hnext]
      exact hlast

theorem take_zipIdx (text : Text) (read : Nat) :
    text.zipIdx.take read = (text.take read).zipIdx := by
  apply List.ext_getElem?
  intro i
  rw [List.getElem?_take, List.getElem?_zipIdx, List.getElem?_zipIdx, List.getElem?_take]
  split
  · rfl
  · rfl

theorem exists_counters_behind (text : Text) (read : Nat) :
    ∃ counters, (text.zipIdx.take read).foldlM feed zero = .ok counters ∧
      counters.HaveRead (text.take read) := by
  rw [take_zipIdx]
  exact haveRead_zero.foldlM_feed (text.take read)

/-!
## The record
-/

/-- The map of a text with its records, each of the number of lines made and the last end. -/
def buildRecorded (text : Text) : Except Violation (LineMap × List (Nat × Int)) := do
  let counters ← text.zipIdx.foldlM feed zero
  let lines ← counters.close
  let map ← LineMap.ofLines lines
  pure (map, [(lines.length, counters.stop)])

theorem buildRecorded_eq_ok (text : Text) :
    buildRecorded text =
      .ok (LineMap.ofText text, [((LineMap.ofText text).count, (text.length : Int))]) := by
  rcases haveRead_zero.foldlM_feed text with ⟨counters, hcounters, hread⟩
  have hscan : .ok counters = Except.ok (ofScan (Scan.start.feedAll text)) :=
    hcounters.symm.trans (foldlM_feed_ofScan Scan.start text)
  have hclose : counters.close = .ok (LineMap.ofText text).toList := by
    rw [Except.ok.inj hscan]
    exact close_ofScan (Scan.start.feedAll text)
  have hstop : counters.stop = text.length := hread.stop_eq
  have hrun : text.zipIdx.foldlM feed zero = .ok counters := hcounters
  simp only [buildRecorded, hrun, bind, Except.bind, hclose, LineMap.ofLines_toList, hstop,
    LineMap.length_toList]
  rfl

end Counters

namespace LineMap

theorem build_eq (text : Text) :
    build text = (ofText text, [⟨(ofText text).count, (ofText text).size⟩]) := by
  have hread := Scan.feedAll_stop Scan.start text
  have hsize : (Scan.start.feedAll text).extent.stop = (ofText text).size := by
    rw [hread, size_ofText]
    exact Nat.zero_add text.length
  show (ofText text,
    [BuildRecord.mk (ofText text).count (Scan.start.feedAll text).extent.stop]) = _
  rw [hsize]

/-- Building a map leaves one record, and it tells the lines and the characters that the map
has.  With counters the same numbers are recorded, and at every point of the text the last
counter is the number of characters read. -/
theorem build_records_count_and_size (text : Text) :
    (∃ record, ofInput (.string text) = .ok (ofText text, [record]) ∧
      record.lineCount = (ofText text).count ∧ record.size = (ofText text).size ∧
      record.message = "Built line map: " ++ Text.Decimal.ofNat (text.count Text.delimiter + 1)
        ++ " line(s), " ++ Text.Decimal.ofNat text.length ++ " character(s)") ∧
    (ofText text).count = text.count Text.delimiter + 1 ∧
    (ofText text).size = text.length ∧
    Counters.buildRecorded text =
      .ok (ofText text, [((ofText text).count, ((ofText text).size : Int))]) ∧
    ∀ read : Nat, ∃ counters,
      (text.zipIdx.take read).foldlM Counters.feed .zero = .ok counters ∧
        counters.HaveRead (text.take read) := by
  refine ⟨⟨⟨(ofText text).count, (ofText text).size⟩, ?_, rfl, rfl, ?_⟩, count_ofText text,
    size_ofText text, ?_, Counters.exists_counters_behind text⟩
  · rw [ofInput_string, build_eq]
  · rw [count_ofText, size_ofText]
    rfl
  · rw [size_ofText]
    exact Counters.buildRecorded_eq_ok text

end LineMap
end TextCoordinates
