import TextCoordinates.Proofs.LineMap.LineText

/-!
# Excerpts row by row

The rows of an excerpt can also be fetched one by one: the numbers near the current
row are counted up, and the text of each line is asked for by its number.  Asking
checks the number.  No check fails, because only numbers of entries are counted, so
the excerpt is the same.
-/

namespace TextCoordinates
namespace LineMap

/-- The numbers at most `context` away from the current row, as far as there are entries. -/
def nearbyNumbers (map : LineMap) (current context : Int) : Progression :=
  ⟨max 0 (current - context), min map.count (current + context + 1), 1⟩

def numberedRows (map : LineMap) (text : Text) (found : Location) (marker : Text)
    (number : Int) : Except Violation (List Text) :=
  (map.lineText text number false).map fun row =>
    if number = found.number then [row, markerRow found.column marker] else [row]

def excerptByNumber (map : LineMap) (text : Text) (position context : Int) (marker : Text) :
    Except Violation Text :=
  if context < 0 then .error (.contextLines context)
  else do
    let found ← map.locate position
    let rows ← (map.nearbyNumbers found.number context).traverse
      (map.numberedRows text found marker)
    pure (Text.joinRows rows.flatten)

theorem toList_nearbyNumbers (map : LineMap) (current context : Int) :
    (map.nearbyNumbers current context).toList =
      (map.nearby current context).map fun entry => (entry.2 : Int) := by
  have hstep : (0 : Int) < (map.nearbyNumbers current context).step := Int.one_pos
  have hlength : (map.nearbyNumbers current context).length =
      min (current + context + 1).toNat map.count - (current - context).toNat := by
    rw [Progression.length_up hstep]
    simp only [nearbyNumbers, Int.ediv_one]
    lia
  apply List.ext_getElem
  · rw [Progression.length_toList, hlength, nearby, List.length_map, List.length_drop,
      List.length_take, List.length_zipIdx, length_toList]
  · intro i hleft hright
    simp only [Progression.toList, Progression.term, nearbyNumbers, nearby, List.getElem_map,
      List.getElem_range, List.getElem_drop, List.getElem_take, List.getElem_zipIdx]
    lia

theorem getElem?_of_mem_nearby {map : LineMap} {current context : Int} {entry : Line × Nat}
    (h : entry ∈ map.nearby current context) : map.toList[entry.2]? = some entry.1 :=
  List.mk_mem_zipIdx_iff_getElem?.mp (List.mem_of_mem_take (List.mem_of_mem_drop h))

theorem numberedRows_of_getElem? {map : LineMap} {place : Nat} {line : Line}
    (h : map.toList[place]? = some line) (text : Text) (found : Location) (marker : Text) :
    map.numberedRows text found marker place =
      .ok (if place = found.number then [line.content text, markerRow found.column marker]
        else [line.content text]) := by
  rw [numberedRows, lineText_of_getElem? h]
  rfl

/-- No check fails on the way, and counting up visits the near entries in their order. -/
theorem excerptByNumber_eq_excerpt (map : LineMap) (text : Text) (position context : Int)
    (marker : Text) :
    map.excerptByNumber text position context marker =
      map.excerpt text position context marker := by
  unfold excerptByNumber excerpt
  by_cases hcontext : context < 0
  · rw [if_pos hcontext, if_pos hcontext]
  · rw [if_neg hcontext, if_neg hcontext]
    cases map.locate position with
    | error violation =>
        rfl
    | ok found =>
        have hanswers : ∀ entry ∈ map.nearby found.number context,
            map.numberedRows text found marker entry.2 =
              .ok (if entry.2 = found.number then
                  [entry.1.content text, markerRow found.column marker]
                else [entry.1.content text]) := by
          intro entry hentry
          exact numberedRows_of_getElem? (getElem?_of_mem_nearby hentry) text found marker
        have htraverse : (map.nearbyNumbers found.number context).traverse
            (map.numberedRows text found marker) =
              (map.nearby found.number context).mapM fun entry =>
                map.numberedRows text found marker entry.2 := by
          rw [Progression.traverse_eq_mapM, toList_nearbyNumbers, List.mapM_map]
          rfl
        show (do
          let rows ← (map.nearbyNumbers found.number context).traverse
            (map.numberedRows text found marker)
          pure (Text.joinRows rows.flatten)) =
            Except.ok (Text.joinRows (map.excerptRows text found context marker))
        rw [htraverse, mapM_eq_ok_map hanswers, excerptRows, List.flatMap_def]
        rfl

end LineMap
end TextCoordinates
