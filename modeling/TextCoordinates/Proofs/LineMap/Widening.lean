import TextCoordinates.Proofs.LineMap.Excerpt

/-!
# Widening an excerpt

More context only adds rows: the excerpt with less of it is a piece of the excerpt with
more.  With enough context an excerpt shows all of the text, and the marker row is put in
where the row of the position ends.
-/

namespace TextCoordinates
namespace LineMap

open Text (rows closeRows openRows)

/-- An excerpt from the map of a text stands around one row of it, the same row for every
context. -/
theorem exists_excerpt_of_position (text : Text) {position : Nat} (h : position ≤ text.length) :
    ∃ (front : List Text) (row : Text) (back : List Text) (offset : Nat),
      rows text = front ++ row :: back ∧ offset ≤ row.length ∧
      position = (closeRows front).length + offset ∧
      ∀ (context : Nat) (marker : Text),
        (ofText text).excerpt text position context marker =
          .ok (Text.joinRows (front.drop (front.length - context) ++
            row :: markerRow offset marker :: back.take context)) := by
  rcases exists_row_of_position text h with
    ⟨front, row, back, line, offset, hrows, hinside, hposition, hnumber, hlocate⟩
  exact ⟨front, row, back, offset, hrows, hinside, hposition,
    excerpt_of_rows_eq hrows hnumber hlocate⟩

theorem joinRows_infix_of_le {front : List Text} {row marked : Text} {back : List Text}
    {context wider : Nat} (h : context ≤ wider) :
    Text.joinRows (front.drop (front.length - context) ++ row :: marked :: back.take context) <:+:
      Text.joinRows (front.drop (front.length - wider) ++ row :: marked :: back.take wider) := by
  apply Text.joinRows_infix_of_around
  · exact List.drop_suffix_drop_left front (by lia)
  · exact (List.prefix_cons_inj marked).mpr (List.take_prefix_take_left h)

theorem joinRows_of_length_le {front : List Text} {row marked : Text} {back : List Text}
    {context : Nat} (hfront : front.length ≤ context) (hback : back.length ≤ context) :
    Text.joinRows (front.drop (front.length - context) ++ row :: marked :: back.take context) =
      closeRows front ++ row ++ Text.delimiter :: (marked ++ openRows back) := by
  rw [Nat.sub_eq_zero_of_le hfront, List.drop_zero, List.take_of_length_le hback,
    Text.joinRows_append_cons_cons]

/-- An excerpt with less context is a piece of every excerpt with more, and an excerpt with
enough context is the text with the marker row put in. -/
theorem excerpt_widening (text marker : Text) {position : Int} (hlow : 0 ≤ position)
    (hhigh : position ≤ text.length) :
    let start := text.rowStart position.toNat
    let stop := text.rowEnd position.toNat
    (∀ context wider : Int, 0 ≤ context → context ≤ wider →
      ∃ narrow wide, (ofText text).excerpt text position context marker = .ok narrow ∧
        (ofText text).excerpt text position wider marker = .ok wide ∧ narrow <:+: wide) ∧
    (∀ context : Int, (ofText text).count - 1 ≤ context →
      (ofText text).excerpt text position context marker =
        .ok (text.take stop ++ Text.delimiter ::
          (List.replicate (position.toNat - start) ' ' ++ marker ++ text.drop stop))) := by
  intro start stop
  obtain ⟨position, rfl⟩ := Int.eq_ofNat_of_zero_le hlow
  rcases exists_excerpt_of_position text (Int.ofNat_le.mp hhigh) with
    ⟨front, row, back, offset, hrows, hinside, hposition, hexcerpt⟩
  constructor
  · intro context wider hcontext hle
    obtain ⟨context, rfl⟩ := Int.eq_ofNat_of_zero_le hcontext
    obtain ⟨wider, rfl⟩ := Int.eq_ofNat_of_zero_le (Int.le_trans hcontext hle)
    exact ⟨_, _, hexcerpt context marker, hexcerpt wider marker,
      joinRows_infix_of_le (Int.ofNat_le.mp hle)⟩
  · intro context hcount
    have hlength : (ofText text).count = front.length + back.length + 1 := by
      rw [count_ofText, ← Text.length_rows, hrows, List.length_append]
      rfl
    obtain ⟨context, rfl⟩ := Int.eq_ofNat_of_zero_le (a := context) (by lia)
    have hstart : start = (closeRows front).length := by
      show text.rowStart position = (closeRows front).length
      rw [hposition, Text.rowStart_of_rows_eq hrows hinside]
    have hcolumn : position - start = offset := by
      rw [hstart, hposition, Nat.add_sub_cancel_left]
    have htake : text.take stop = closeRows front ++ row := by
      show text.take (text.rowEnd position) = closeRows front ++ row
      rw [hposition, Text.take_rowEnd hrows hinside]
    have hdrop : text.drop stop = openRows back := by
      show text.drop (text.rowEnd position) = openRows back
      rw [hposition, Text.drop_rowEnd hrows hinside]
    rw [hexcerpt, joinRows_of_length_le (by lia) (by lia), Int.toNat_natCast, hcolumn, htake,
      hdrop]
    rfl

theorem excerpt_widening_final_delimiter :
    let text : Text := "a\n\nb\n"
    (0 : Int) ≤ 4 ∧ (4 : Int) ≤ text.length ∧ (ofText text).count = 4 ∧
      (∃ narrow wide, (ofText text).excerpt text 4 0 "^" = .ok narrow ∧
        (ofText text).excerpt text 4 1 "^" = .ok wide ∧ narrow <:+: wide) ∧
      (ofText text).excerpt text 4 3 "^" = .ok "a\n\nb\n ^\n" := by
  intro text
  have hcount : (ofText text).count = 4 := count_ofText text
  rcases excerpt_widening text "^" (by decide : (0 : Int) ≤ 4) (by decide) with
    ⟨hpiece, hwhole⟩
  refine ⟨by decide, by decide, hcount, hpiece 0 1 (by decide) (by decide), ?_⟩
  rw [hwhole 3 (by lia)]
  exact congrArg Except.ok (by decide)

end LineMap
end TextCoordinates
