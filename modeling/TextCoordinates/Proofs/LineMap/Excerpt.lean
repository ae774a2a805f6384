import TextCoordinates.Excerpt
import TextCoordinates.Proofs.LineMap.Content

/-!
# Excerpts

An excerpt shows the rows near the current row and the marker row below it.  On every
table the entries before and behind the current row are shown as far as the context
reaches.  On the map of a text they are the rows of the text.
-/

namespace TextCoordinates
namespace LineMap

open Text (rows closeRows)

/-!
## Around the current row
-/

section

variable {map : LineMap} {front : List Line} {line : Line} {back : List Line}

theorem nearby_of_toList_eq (h : map.toList = front ++ line :: back) (context : Nat) :
    map.nearby front.length context =
      front.zipIdx.drop (front.length - context) ++
        (line, front.length) :: (back.zipIdx (front.length + 1)).take context := by
  have hhigh : ((front.length : Int) + context + 1).toNat = front.length + (context + 1) := by
    lia
  have hlow : ((front.length : Int) - context).toNat = front.length - context := by
    lia
  have hindexed : map.toList.zipIdx =
      front.zipIdx ++ (line, front.length) :: back.zipIdx (front.length + 1) := by
    rw [h, List.zipIdx_append, List.zipIdx_cons, Nat.zero_add]
  have htake : map.toList.zipIdx.take (front.length + (context + 1)) =
      front.zipIdx ++ (line, front.length) :: (back.zipIdx (front.length + 1)).take context := by
    have hlength : front.zipIdx.length = front.length := List.length_zipIdx
    rw [hindexed, ← hlength, List.take_length_add_append, List.take_succ_cons, hlength]
  have hle : front.length - context ≤ front.zipIdx.length := by
    rw [List.length_zipIdx]
    exact Nat.sub_le front.length context
  rw [nearby, hhigh, hlow, htake, List.drop_append_of_le_length hle]

/-- Entries away from the current row are shown without a marker. -/
theorem flatMap_of_ne {entries : List (Line × Nat)} {current : Int} {text marked : Text}
    (h : ∀ entry ∈ entries, (entry.2 : Int) ≠ current) :
    (entries.flatMap fun (line, place) =>
      if place = current then [line.content text, marked] else [line.content text]) =
      (entries.map Prod.fst).map (·.content text) := by
  induction entries with
  | nil =>
      rfl
  | cons entry entries ih =>
      have hentry := h entry List.mem_cons_self
      have hentries := ih fun other hother => h other (List.mem_cons_of_mem entry hother)
      cases entry with
      | mk line place =>
          rw [List.flatMap_cons, hentries, List.map_cons, List.map_cons]
          simp only [if_neg hentry]
          rfl

theorem excerptRows_of_contents_eq {text : Text} {above : List Text} {row : Text}
    {below : List Text} (h : map.toList.map (·.content text) = above ++ row :: below)
    {found : Location} (hnumber : found.number = above.length) (context : Nat)
    (marker : Text) :
    map.excerptRows text found context marker =
      above.drop (above.length - context) ++
        row :: markerRow found.column marker :: below.take context := by
  rcases List.map_eq_append_iff.mp h with ⟨front, rest, htable, habove, hrest⟩
  rcases List.map_eq_cons_iff.mp hrest with ⟨line, back, hsplit, hrow, hbelow⟩
  have hlength : above.length = front.length := by
    rw [← habove, List.length_map]
  rw [hsplit] at htable
  rw [hlength] at hnumber
  have hfront : ∀ entry ∈ front.zipIdx.drop (front.length - context),
      (entry.2 : Int) ≠ (front.length : Int) := by
    intro entry hentry
    have hlt := (List.mem_zipIdx (List.mem_of_mem_drop hentry)).2.1
    lia
  have hback : ∀ entry ∈ (back.zipIdx (front.length + 1)).take context,
      (entry.2 : Int) ≠ (front.length : Int) := by
    intro entry hentry
    have hle := List.le_snd_of_mem_zipIdx (List.mem_of_mem_take hentry)
    lia
  rw [excerptRows, hnumber, nearby_of_toList_eq htable, List.flatMap_append, List.flatMap_cons,
    flatMap_of_ne hfront, flatMap_of_ne hback, hlength, ← habove, ← hrow, ← hbelow]
  simp only [List.map_drop, List.map_take, List.zipIdx_map_fst, if_true]
  rfl

end

theorem excerpt_of_locate_eq_ok {map : LineMap} {position context : Int} {found : Location}
    (hcontext : 0 ≤ context) (hlocate : map.locate position = .ok found) (text marker : Text) :
    map.excerpt text position context marker =
      .ok (Text.joinRows (map.excerptRows text found context marker)) := by
  rw [excerpt, if_neg (Int.not_lt.mpr hcontext), hlocate]
  rfl

/-!
## Rows of a text
-/

section

variable {front : List Text} {row : Text} {back : List Text}

theorem extract_through {low : Nat} (h : low ≤ front.length) :
    (front ++ row :: back).extract low (front.length + 1) = front.drop low ++ [row] := by
  rw [List.extract_eq_take_drop, List.drop_append_of_le_length h]
  have hlength : front.length + 1 - low = (front.drop low).length + 1 := by
    rw [List.length_drop]
    lia
  rw [hlength, List.take_length_add_append]
  rfl

theorem extract_behind (count : Nat) :
    (front ++ row :: back).extract (front.length + 1)
      (min (front ++ row :: back).length (front.length + count + 1)) = back.take count := by
  have hcount : min (front ++ row :: back).length (front.length + count + 1) -
      (front.length + 1) = min count back.length := by
    rw [List.length_append, List.length_cons]
    lia
  rw [List.extract_eq_take_drop, hcount, List.drop_length_add_append, List.drop_succ_cons,
    List.drop_zero, ← List.take_eq_take_min]

end

/-- Once the row of a position is found, an excerpt shows that row and its neighbours. -/
theorem excerpt_of_rows_eq {text : Text} {front : List Text} {row : Text} {back : List Text}
    (hrows : rows text = front ++ row :: back) {position : Int} {line : Line} {offset : Nat}
    (hnumber : line.number = front.length)
    (hlocate : (ofText text).locate position = .ok ⟨line, offset⟩) (context : Nat)
    (marker : Text) :
    (ofText text).excerpt text position context marker =
      .ok (Text.joinRows (front.drop (front.length - context) ++
        row :: markerRow offset marker :: back.take context)) := by
  have hcontents := toList_map_content_ofText text
  have hfound : Location.number ⟨line, offset⟩ = front.length := hnumber
  rw [hrows] at hcontents
  rw [excerpt_of_locate_eq_ok (Int.natCast_nonneg context) hlocate,
    excerptRows_of_contents_eq hcontents hfound]
  rfl

/-- An excerpt from the map of a text shows the rows of the text around the position. -/
theorem excerpt_ofText (text marker : Text) {position context : Int} (hlow : 0 ≤ position)
    (hhigh : position ≤ text.length) (hcontext : 0 ≤ context) :
    let rows := text.rows
    let current := (text.take position.toNat).count Text.delimiter
    let column := position.toNat - text.rowStart position.toNat
    current < rows.length ∧
      (ofText text).excerpt text position context marker =
        .ok (Text.joinRows
          (rows.extract (current - context.toNat) (current + 1) ++
            (List.replicate column ' ' ++ marker) ::
            rows.extract (current + 1) (min rows.length (current + context.toNat + 1)))) := by
  intro pieces current column
  obtain ⟨position, rfl⟩ := Int.eq_ofNat_of_zero_le hlow
  obtain ⟨context, rfl⟩ := Int.eq_ofNat_of_zero_le hcontext
  rcases exists_row_of_position text (Int.ofNat_le.mp hhigh) with
    ⟨front, row, back, line, offset, hrows, hinside, hposition, hnumber, hlocate⟩
  have hpieces : pieces = front ++ row :: back := hrows
  have hcurrent : current = front.length := by
    show (text.take position).count Text.delimiter = front.length
    rw [hposition, Text.count_take_of_rows_eq hrows hinside]
  have hcolumn : column = offset := by
    show position - text.rowStart position = offset
    rw [hposition, Text.rowStart_of_rows_eq hrows hinside, Nat.add_sub_cancel_left]
  have hextracts : pieces.extract (current - context) (current + 1) ++
      (List.replicate column ' ' ++ marker) ::
        pieces.extract (current + 1) (min pieces.length (current + context + 1)) =
      front.drop (front.length - context) ++
        row :: markerRow offset marker :: back.take context := by
    rw [hcurrent, hcolumn, hpieces, extract_through (Nat.sub_le _ _), extract_behind,
      List.append_assoc]
    rfl
  have hcontents := toList_map_content_ofText text
  rw [hrows] at hcontents
  constructor
  · rw [hcurrent, hpieces, List.length_append, List.length_cons]
    lia
  · have hnonneg : ¬ (context : Int) < 0 := Int.not_lt.mpr hcontext
    have hfound : Location.number ⟨line, offset⟩ = front.length := hnumber
    rw [Int.toNat_natCast, hextracts, excerpt, if_neg hnonneg, hlocate]
    show Except.ok (Text.joinRows _) = _
    rw [excerptRows_of_contents_eq hcontents hfound]
    rfl

theorem excerpt_ofText_clamped :
    let text : Text := "a\n\nb\n"
    (0 : Int) ≤ 2 ∧ (2 : Int) ≤ text.length ∧ (0 : Int) ≤ 1 ∧
      (ofText text).excerpt text 2 1 "^" = .ok "a\n\n^\nb" := by
  intro text
  refine ⟨by decide, by decide, by decide, ?_⟩
  rw [(excerpt_ofText text "^" (by decide) (by decide) (by decide)).2]
  exact congrArg Except.ok (by decide)

end LineMap
end TextCoordinates
