import TextCoordinates.Excerpt
import TextCoordinates.Proofs.LineMap.Content

/-!
# The texts of lines

The text of a line is asked for by the number of its entry.  Asking for the entries of a
table one after the other never fails, whatever the text is.  With the map of the text
itself the answers are the rows of the text, and a kept delimiter stands behind every row
but the last.
-/

namespace TextCoordinates
namespace LineMap

open Text (rows)

/-!
## Asking for every entry
-/

/-- Going through a list collects all answers if none of them is a failure. -/
theorem mapM_eq_ok_map {f : α → Except ε β} {g : α → β} {xs : List α}
    (h : ∀ x ∈ xs, f x = .ok (g x)) : xs.mapM f = .ok (xs.map g) := by
  induction xs with
  | nil =>
      rfl
  | cons x xs ih =>
      have hhead := h x List.mem_cons_self
      have htail := ih fun y hy => h y (List.mem_cons_of_mem x hy)
      rw [List.mapM_cons, hhead, htail]
      rfl

theorem lineText_of_getElem? {map : LineMap} {place : Nat} {line : Line}
    (h : map.toList[place]? = some line) (text : Text) (keepEnd : Bool) :
    map.lineText text place keepEnd =
      .ok (if keepEnd then line.extract text else line.content text) := by
  rw [lineText, line_of_getElem? h]
  rfl

theorem mapM_lineText (map : LineMap) (text : Text) (keepEnd : Bool) :
    (List.range map.count).mapM (fun (number : Nat) => map.lineText text number keepEnd) =
      .ok (map.toList.map fun line =>
        if keepEnd then line.extract text else line.content text) := by
  have hnumbers : List.range map.count = map.toList.zipIdx.map Prod.snd := by
    rw [List.zipIdx_map_snd, length_toList, List.range_eq_range']
  have hanswers : ∀ entry ∈ map.toList.zipIdx, map.lineText text entry.2 keepEnd =
      .ok (if keepEnd then entry.1.extract text else entry.1.content text) := by
    intro entry hentry
    exact lineText_of_getElem? (List.mem_zipIdx_iff_getElem?.mp hentry) text keepEnd
  have hlines : (map.toList.zipIdx.map fun entry =>
        if keepEnd then entry.1.extract text else entry.1.content text) =
      map.toList.map fun line =>
        if keepEnd then line.extract text else line.content text := by
    rw [← List.zipIdx_map_fst 0 map.toList, List.map_map, List.zipIdx_map_fst]
    rfl
  rw [hnumbers, List.mapM_map, ← hlines]
  exact mapM_eq_ok_map hanswers

/-!
## The map of a text
-/

theorem lineText_of_rows_eq {text : Text} {front : List Text} {row : Text}
    {back : List Text} (h : rows text = front ++ row :: back) :
    (ofText text).lineText text front.length false = .ok row := by
  have hplace : ((ofText text).toList.map (·.content text))[front.length]? = some row := by
    rw [toList_map_content_ofText, Text.getElem?_rows h]
  rw [List.getElem?_map] at hplace
  rcases Option.map_eq_some_iff.mp hplace with ⟨line, hline, hrow⟩
  rw [lineText_of_getElem? hline, hrow]
  rfl

/-- Asking for the texts of all lines splits a text at its delimiters. -/
theorem lineTexts_ofText (text : Text) :
    let map := ofText text
    let pieces := text.splitOn Text.delimiter
    (List.range map.count).mapM (fun (i : Nat) => map.lineText text i false) = .ok pieces ∧
      (∀ piece ∈ pieces, Text.delimiter ∉ piece) ∧
      Text.joinRows pieces = text ∧
      (List.range map.count).mapM (fun (i : Nat) => map.lineText text i true) =
        .ok (pieces.mapIdx fun i piece =>
          if i + 1 < map.count then piece ++ [Text.delimiter] else piece) := by
  intro map pieces
  have hcount : map.count = (rows text).length := by
    rw [count_ofText, Text.length_rows]
  refine ⟨?_, ?_, Text.joinRows_rows text, ?_⟩
  · rw [mapM_lineText]
    exact congrArg Except.ok (toList_map_content_ofText text)
  · intro piece hpiece
    exact Text.notMem_of_mem_rows hpiece
  · rw [mapM_lineText, hcount]
    exact congrArg Except.ok (toList_map_extract_ofText text)

theorem lineTexts_ofText_empty_rows :
    let text : Text := "\na\r\n\nb\n"
    let map := ofText text
    let pieces : List Text := ["", "a\r", "", "b", ""]
    (List.range map.count).mapM (fun (i : Nat) => map.lineText text i false) = .ok pieces ∧
      ("a\r" : Text) ∈ pieces ∧ Text.delimiter ∉ ("a\r" : Text) ∧
      (List.range map.count).mapM (fun (i : Nat) => map.lineText text i true) =
        .ok ["\n", "a\r\n", "\n", "b\n", ""] := by
  intro text map pieces
  rcases lineTexts_ofText text with ⟨hpieces, hnone, _hjoin, hkept⟩
  have hsplit : text.splitOn Text.delimiter = pieces := by
    decide
  rw [hsplit] at hpieces hnone hkept
  refine ⟨hpieces, by decide, hnone "a\r" (by decide), ?_⟩
  rw [hkept]
  exact congrArg Except.ok (by decide)

end LineMap
end TextCoordinates
