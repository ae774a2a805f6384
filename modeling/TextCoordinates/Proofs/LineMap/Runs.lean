import TextCoordinates.Proofs.LineMap.Table

/-!
# Runs of lines

On a tiling the lines of a run cut a text into pieces that follow each other, so together
they hold what the hull of the run cuts out.  The text need not be as long as the table
expects: a line that it reaches in part gives a shorter piece, and a line beyond its end
gives an empty one.  Nothing is lost or held twice.
-/

namespace TextCoordinates
namespace LineMap

/-!
## Parts of a tiling
-/

theorem Tiles.take {low : Nat} {lines : List Line} (h : Tiles low lines) (count : Nat) :
    Tiles low (lines.take count) := by
  have hentry : ∀ {i : Nat} {line : Line}, (lines.take count)[i]? = some line →
      lines[i]? = some line := by
    intro i line hline
    rw [List.getElem?_take] at hline
    split at hline
    · exact hline
    · cases hline
  constructor
  · intro line hline
    exact h.starts line (hentry hline)
  · intro i line next hline hnext
    exact h.meets i line next (hentry hline) (hentry hnext)

theorem Tiles.drop {low i : Nat} {lines : List Line} (h : Tiles low lines) {line : Line}
    (hline : lines[i]? = some line) : Tiles line.span.start (lines.drop i) := by
  constructor
  · intro first hfirst
    rw [List.getElem?_drop, Nat.add_zero, hline] at hfirst
    cases hfirst
    rfl
  · intro j entry next hentry hnext
    rw [List.getElem?_drop] at hentry hnext
    exact h.meets (i + j) entry next hentry hnext

/-!
## Pieces that follow each other

What the lines of a tiling cut out, followed by the rest of the text, is the text from
the first line on.
-/

theorem Tiles.flatMap_extract_append_drop {low : Nat} {lines : List Line}
    (h : Tiles low lines) {last : Line} (hlast : lines.getLast? = some last) (text : Text) :
    lines.flatMap (·.extract text) ++ text.drop last.span.stop = text.drop low := by
  induction lines generalizing low with
  | nil =>
      cases hlast
  | cons line rest ih =>
      rcases tiles_cons.mp h with ⟨hstart, hrest⟩
      have hpiece : line.extract text ++ text.drop line.span.stop = text.drop low := by
        rw [← hstart]
        exact line.span.extract_append_drop text
      cases rest with
      | nil =>
          cases hlast
          rw [List.flatMap_singleton]
          exact hpiece
      | cons next rest =>
          rw [List.getLast?_cons_cons] at hlast
          rw [List.flatMap_cons, List.append_assoc, ih hrest hlast, hpiece]

theorem Tiles.hull_of_le {low : Nat} {lines : List Line} (h : Tiles low lines) {i j : Nat}
    {first last : Line} (hfirst : lines[i]? = some first) (hlast : lines[j]? = some last)
    (hle : i ≤ j) :
    (first.span.hull last.span).start = first.span.start ∧
      (first.span.hull last.span).stop = last.span.stop :=
  Span.hull_of_le (h.inOrder.start_le hfirst hlast hle) (h.inOrder.stop_le hfirst hlast hle)

theorem Tiles.flatMap_extract_run {low : Nat} {lines : List Line} (h : Tiles low lines)
    {i j : Nat} {first last : Line} (hfirst : lines[i]? = some first)
    (hlast : lines[j]? = some last) (hle : i ≤ j) (text : Text) :
    ((lines.take (j + 1)).drop i).flatMap (·.extract text) =
      (first.span.hull last.span).extract text := by
  have hfirst' : (lines.take (j + 1))[i]? = some first := by
    rw [List.getElem?_take_of_lt (Nat.lt_succ_of_le hle), hfirst]
  have hlast' : ((lines.take (j + 1)).drop i).getLast? = some last := by
    have hlt : j < lines.length := (List.getElem?_eq_some_iff.mp hlast).1
    have hlength : i < (lines.take (j + 1)).length := by
      rw [List.length_take]
      lia
    rw [List.getLast?_drop, if_neg (Nat.not_le_of_lt hlength), List.getLast?_take,
      if_neg (Nat.succ_ne_zero j), Nat.add_sub_cancel, hlast]
    rfl
  rcases h.hull_of_le hfirst hlast hle with ⟨hstart, hstop⟩
  have hrun := ((h.take (j + 1)).drop hfirst').flatMap_extract_append_drop hlast' text
  have hhull := (first.span.hull last.span).extract_append_drop text
  rw [hstart, hstop] at hhull
  exact List.append_cancel_right (hrun.trans hhull.symm)

theorem flatMap_extract_of_tiles {map : LineMap} (h : Tiles 0 map.toList) (text : Text) :
    map.toList.flatMap (·.extract text) = text.take map.size := by
  have hcut := h.flatMap_extract_append_drop (getLast?_toList map) text
  rw [List.drop_zero] at hcut
  exact List.append_cancel_right (hcut.trans (List.take_append_drop map.size text).symm)

/-- Runs of lines are cut out without loss and without repetition, from every text. -/
theorem extract_run_of_tiles :
    (∀ (map : LineMap) (text : Text), Tiles 0 map.toList →
      (∀ (i j : Nat) (first last : Line), i ≤ j → map.toList[i]? = some first →
        map.toList[j]? = some last →
          ((map.toList.take (j + 1)).drop i).flatMap (·.extract text) =
            (first.span.hull last.span).extract text) ∧
      map.toList.flatMap (·.extract text) = text.take map.size) ∧
    (∀ text : Text, (ofText text).toList.flatMap (·.extract text) = text) := by
  constructor
  · intro map text htiles
    refine ⟨?_, flatMap_extract_of_tiles htiles text⟩
    intro i j first last hle hfirst hlast
    exact htiles.flatMap_extract_run hfirst hlast hle text
  · intro text
    have htiles := (isTiling_ofText text).tiles
    rw [flatMap_extract_of_tiles htiles, size_ofText, List.take_length]

theorem extract_run_of_tiles_short_text :
    let map : LineMap :=
      ⟨#[⟨7, .joining 0 2⟩, ⟨7, .point 2⟩, ⟨-1, .joining 2 5⟩, ⟨0, .joining 5 8⟩], by decide⟩
    let text : Text := "abcd"
    Tiles 0 map.toList ∧
      ((map.toList.take 3).drop 1).flatMap (·.extract text) = "cd" ∧
      ((map.toList.take 4).drop 3).flatMap (·.extract text) = [] ∧
      map.toList.flatMap (·.extract text) = text ∧
      (ofText "a\n\nb").toList.flatMap (·.extract "a\n\nb") = "a\n\nb" := by
  intro map text
  have htiles : Tiles 0 map.toList := by
    decide
  rcases extract_run_of_tiles with ⟨htable, htext⟩
  rcases htable map text htiles with ⟨hrun, hall⟩
  refine ⟨htiles, ?_, ?_, ?_, htext "a\n\nb"⟩
  · rw [hrun 1 2 ⟨7, .point 2⟩ ⟨-1, .joining 2 5⟩ (by decide) rfl rfl]
    rfl
  · rw [hrun 3 3 ⟨0, .joining 5 8⟩ ⟨0, .joining 5 8⟩ (by decide) rfl rfl]
    rfl
  · rw [hall]
    rfl

end LineMap
end TextCoordinates
