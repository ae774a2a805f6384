import Mathlib.Data.List.Basic
import TextCoordinates.LineMap.Sequence
import TextCoordinates.Proofs.LineMap.Table

/-!
# What a map keeps of its text

The outline of a text is its length together with the offsets of its delimiters.  A scan
reads nothing else: characters that are not delimiters, carriage returns among them, may
be exchanged for each other.  A table gives the whole outline back, so two texts have
the same map exactly if they have the same outline.
-/

namespace TextCoordinates

namespace Text

structure SameOutline (text other : Text) : Prop where
  length_eq : text.length = other.length
  delimiter_iff : ∀ i : Nat, text[i]? = some delimiter ↔ other[i]? = some delimiter

theorem SameOutline.of_cons {c d : Char} {rest later : Text}
    (h : SameOutline (c :: rest) (d :: later)) :
    (c = delimiter ↔ d = delimiter) ∧ SameOutline rest later := by
  refine ⟨?_, ?_, ?_⟩
  · have hhead := h.delimiter_iff 0
    rwa [List.getElem?_cons_zero, List.getElem?_cons_zero, Option.some_inj,
      Option.some_inj] at hhead
  · exact Nat.succ.inj h.length_eq
  · intro i
    exact h.delimiter_iff (i + 1)

theorem getElem?_append_delimiter_iff {row : Text} (hrow : delimiter ∉ row) (rest : Text)
    (i : Nat) :
    (row ++ delimiter :: rest)[i]? = some delimiter ↔
      i = row.length ∨ ∃ j, i = row.length + 1 + j ∧ rest[j]? = some delimiter := by
  constructor
  · intro h
    rcases Nat.lt_trichotomy i row.length with hlt | heq | hgt
    · rw [List.getElem?_append_left hlt] at h
      exact absurd (List.mem_of_getElem? h) hrow
    · exact Or.inl heq
    · obtain ⟨j, rfl⟩ := Nat.exists_eq_add_of_lt hgt
      refine Or.inr ⟨j, Nat.add_right_comm row.length j 1, ?_⟩
      rwa [Nat.add_assoc, List.getElem?_append_right (Nat.le_add_right _ _),
        Nat.add_sub_cancel_left, List.getElem?_cons_succ] at h
  · intro h
    rcases h with heq | ⟨j, hj, hrest⟩
    · rw [heq, List.getElem?_append_right (Nat.le_refl _), Nat.sub_self]
      rfl
    · rw [hj, Nat.add_assoc, List.getElem?_append_right (Nat.le_add_right _ _),
        Nat.add_sub_cancel_left, Nat.add_comm, List.getElem?_cons_succ]
      exact hrest

end Text

/-!
## Reading no more than the outline

Two characters that are both delimiters, or both none, take a scan to the same state.
-/

namespace Scan

theorem feed_congr {c d : Char} (h : c = Text.delimiter ↔ d = Text.delimiter) (scan : Scan) :
    scan.feed c = scan.feed d := by
  by_cases hc : c = Text.delimiter
  · have hd : d = Text.delimiter := h.mp hc
    rw [hc, hd]
  · have hd : d ≠ Text.delimiter := fun hd => hc (h.mpr hd)
    rw [feed_of_ne scan hc, feed_of_ne scan hd]

theorem feedAll_congr {text other : Text} (h : text.SameOutline other) (scan : Scan) :
    scan.feedAll text = scan.feedAll other := by
  induction text generalizing other scan with
  | nil =>
      have hother : other = [] := List.length_eq_zero_iff.mp h.length_eq.symm
      rw [hother]
  | cons c rest ih =>
      cases other with
      | nil =>
          cases h.length_eq
      | cons d later =>
          rcases h.of_cons with ⟨hhead, hrest⟩
          simp [feed_congr hhead, ih hrest]

end Scan

/-!
## Reading the outline off a table

Every line but the last ends behind a delimiter, and no delimiter stands elsewhere.
-/

namespace LineMap

/-- From the start of a closed line on, a delimiter ends the line or stands behind it. -/
theorem delimiter_iff_of_closed_line {text : Text} {line : Line}
    (hstop : line.span.stop ≤ text.length)
    (hcount : (line.extract text).count Text.delimiter = 1)
    (hlast : (line.extract text).getLast? = some Text.delimiter) (i : Nat) :
    (text.drop line.span.start)[i]? = some Text.delimiter ↔
      line.span.stop = line.span.start + i + 1 ∨
        ∃ j, line.span.start + i = line.span.stop + j ∧
          (text.drop line.span.stop)[j]? = some Text.delimiter := by
  rcases exists_row_of_closed_line hstop hcount hlast with ⟨row, hrow, hlength, hdrop⟩
  rw [hdrop, Text.getElem?_append_delimiter_iff hrow]
  constructor
  · intro h
    rcases h with hend | ⟨j, hj, hbehind⟩
    · exact Or.inl (by lia)
    · exact Or.inr ⟨j, by lia, hbehind⟩
  · intro h
    rcases h with hend | ⟨j, hj, hbehind⟩
    · exact Or.inl (by lia)
    · exact Or.inr ⟨j, by lia, hbehind⟩

theorem IsTableFrom.delimiter_iff {number start : Nat} {text : Text} {lines : List Line}
    (h : IsTableFrom number start text lines) (i : Nat) :
    (text.drop start)[i]? = some Text.delimiter ↔
      ∃ line ∈ lines.dropLast, line.span.stop = start + i + 1 := by
  induction lines generalizing number start i with
  | nil =>
      exact absurd rfl h.ne_nil
  | cons line rest ih =>
      cases rest with
      | nil =>
          rcases isTableFrom_singleton.mp h with ⟨_hnumber, hstart, hstop, hopened⟩
          rw [Line.extract, Span.extract_eq_drop hstop, hstart] at hopened
          constructor
          · intro hdelimiter
            exact absurd (List.mem_of_getElem? hdelimiter) hopened
          · intro hclosed
            rcases hclosed with ⟨other, hother, _hstop⟩
            cases hother
      | cons next rest =>
          rcases isTableFrom_cons_cons.mp h with ⟨_hnumber, rfl, hclosed, hrest⟩
          rw [delimiter_iff_of_closed_line hrest.start_le_length hclosed.left hclosed.right,
            List.dropLast_cons_cons, List.exists_mem_cons_iff]
          apply or_congr_right'
          intro hend
          constructor
          · intro hbehind
            rcases hbehind with ⟨j, hj, hdelimiter⟩
            rcases (ih hrest j).mp hdelimiter with ⟨other, hother, hstop⟩
            exact ⟨other, hother, by lia⟩
          · intro hlater
            rcases hlater with ⟨other, hother, hstop⟩
            have hstart := hrest.tiles.low_le_start other (List.dropLast_subset _ hother)
            have hle := other.span.start_le_stop
            have hbehind : line.span.stop ≤ line.span.start + i := by
              lia
            obtain ⟨j, hj⟩ := Nat.exists_eq_add_of_le hbehind
            exact ⟨j, hj, (ih hrest j).mpr ⟨other, hother, by lia⟩⟩

theorem getElem?_eq_delimiter_iff (text : Text) (i : Nat) :
    text[i]? = some Text.delimiter ↔
      ∃ line ∈ (ofText text).toList.dropLast, line.span.stop = i + 1 := by
  have hiff := IsTableFrom.delimiter_iff (isTable_ofText text) i
  rwa [List.drop_zero, Nat.zero_add] at hiff

theorem ofText_eq_iff_sameOutline (text other : Text) :
    ofText text = ofText other ↔ text.SameOutline other := by
  constructor
  · intro h
    constructor
    · rw [← size_ofText, ← size_ofText, h]
    · intro i
      rw [getElem?_eq_delimiter_iff, getElem?_eq_delimiter_iff, h]
  · intro h
    have hscan := Scan.feedAll_congr h Scan.start
    show (Scan.start.feedAll text).map = (Scan.start.feedAll other).map
    rw [hscan]

/-- Maps are equal exactly if their texts have one length and the same delimiters, and
comparing two maps tells whether they are equal. -/
theorem ofText_eq_ofText_iff (text other : Text) :
    (ofText text = ofText other ↔
        text.length = other.length ∧
          ∀ i : Nat, text[i]? = some Text.delimiter ↔ other[i]? = some Text.delimiter) ∧
      ((ofText text).isEqual (.map (ofText other)) = true ↔ ofText text = ofText other) := by
  constructor
  · rw [ofText_eq_iff_sameOutline]
    exact ⟨fun h => ⟨h.length_eq, h.delimiter_iff⟩, fun h => ⟨h.left, h.right⟩⟩
  · exact isEqual_map_iff

end LineMap
end TextCoordinates
