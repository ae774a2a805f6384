import TextCoordinates.Line

/-!
# Line maps

A line map is a table of lines with at least one entry.  The map of a text lists
its lines in order, but a table may also be given as it is: then its spans may
leave gaps or overlap, and its line numbers may be any.
-/

namespace TextCoordinates

structure LineMap where
  lines : Array Line
  lines_pos : 0 < lines.size
deriving DecidableEq

namespace LineMap

def ofLines (lines : List Line) : Except Violation LineMap :=
  if h : 0 < lines.length then .ok ⟨lines.toArray, by simpa using h⟩
  else .error .emptyTable

def toList (map : LineMap) : List Line :=
  map.lines.toList

def count (map : LineMap) : Nat :=
  map.lines.size

def last (map : LineMap) : Line :=
  map.lines.back map.lines_pos

/-- The size of the text that is mapped, which is the end of its last line. -/
def size (map : LineMap) : Nat :=
  map.last.span.stop

/-!
## Entries

Entries are numbered from zero by their place in the table.  A negative number
names no entry.
-/

def line? (map : LineMap) (number : Int) : Option Line :=
  if number < 0 then none else map.lines[number.toNat]?

def line (map : LineMap) (number : Int) : Except Violation Line :=
  match map.line? number with
  | some line => .ok line
  | none => .error (.lineNumber number map.count)

def describe (map : LineMap) : Text :=
  "LineMap(line_count=" ++ Text.Decimal.ofNat map.count
    ++ ", size=" ++ Text.Decimal.ofNat map.size ++ ")"

@[simp] theorem length_toList (map : LineMap) : map.toList.length = map.count := by
  simp [toList, count]

theorem ofLines_toList (map : LineMap) : ofLines map.toList = .ok map := by
  simp [ofLines, toList, map.lines_pos]

@[simp] theorem ofLines_nil : ofLines [] = .error .emptyTable := by
  simp [ofLines]

theorem ofLines_eq_ok_iff {lines : List Line} {map : LineMap} :
    ofLines lines = .ok map ↔ map.toList = lines := by
  constructor
  · intro h
    unfold ofLines at h
    split at h
    · cases h
      rfl
    · cases h
  · intro h
    rw [← h]
    exact ofLines_toList map

theorem exists_ofLines_eq_ok {lines : List Line} (h : lines ≠ []) :
    ∃ map, ofLines lines = .ok map := by
  have hpos : 0 < lines.length := List.length_pos_iff.mpr h
  exact ⟨_, dif_pos hpos⟩

@[simp] theorem toList_ne_nil (map : LineMap) : map.toList ≠ [] := by
  intro hnil
  have hpos := map.lines_pos
  rw [← Array.length_toList, show map.lines.toList = [] from hnil] at hpos
  cases hpos

theorem lines_getElem? (map : LineMap) (i : Nat) : map.lines[i]? = map.toList[i]? := by
  simp [toList]

theorem lt_count_of_getElem? {map : LineMap} {i : Nat} {line : Line}
    (h : map.toList[i]? = some line) : i < map.count := by
  rcases List.getElem?_eq_some_iff.mp h with ⟨hlt, _hget⟩
  rwa [length_toList] at hlt

theorem getElem?_last (map : LineMap) : map.toList[map.count - 1]? = some map.last := by
  have hlt : map.lines.size - 1 < map.lines.size := by
    have hpos := map.lines_pos
    omega
  rw [← lines_getElem?, count, Array.getElem?_eq_getElem hlt]
  rfl

theorem getLast?_toList (map : LineMap) : map.toList.getLast? = some map.last := by
  rw [List.getLast?_eq_getElem?, length_toList, getElem?_last]

theorem getLast_toList (map : LineMap) : map.toList.getLast map.toList_ne_nil = map.last := by
  rw [← Option.some_inj, ← List.getLast?_eq_some_getLast, getLast?_toList]

theorem line?_natCast (map : LineMap) (i : Nat) : map.line? i = map.lines[i]? := by
  have hi : ¬ (i : Int) < 0 := by omega
  simp [line?, hi]

theorem line_eq_ok_iff {map : LineMap} {number : Int} {line : Line} :
    map.line number = .ok line ↔ 0 ≤ number ∧ map.toList[number.toNat]? = some line := by
  unfold LineMap.line line?
  rw [lines_getElem?]
  by_cases hneg : number < 0
  · have hnot : ¬ 0 ≤ number := by omega
    simp [hneg, hnot]
  · have hnonneg : 0 ≤ number := by omega
    rw [if_neg hneg]
    cases hentry : map.toList[number.toNat]? with
    | none =>
        simp
    | some entry =>
        simp [hnonneg]

theorem line_of_getElem? {map : LineMap} {i : Nat} {line : Line}
    (h : map.toList[i]? = some line) : map.line i = .ok line :=
  line_eq_ok_iff.mpr ⟨Int.natCast_nonneg i, h⟩

theorem getElem?_of_line_eq_ok {map : LineMap} {i : Nat} {line : Line}
    (h : map.line i = .ok line) : map.toList[i]? = some line :=
  (line_eq_ok_iff.mp h).right

theorem lt_count_of_line_eq_ok {map : LineMap} {i : Nat} {line : Line}
    (h : map.line i = .ok line) : i < map.count :=
  lt_count_of_getElem? (getElem?_of_line_eq_ok h)

end LineMap
end TextCoordinates
