import Mathlib.Data.List.Nodup
import TextCoordinates.Proofs.LineMap.Slices
import TextCoordinates.Proofs.LineMap.Tiling

/-!
# Searching a line map

The search asks the table for one entry after the other and relies on the table to refuse
a number that is too large.  It finds the first occurrence of the line in the entries from
the start on and before the stop, and these are the entries that a slice with the same
bounds gives, although a slice moves bounds beyond an end and the search does not.
-/

namespace TextCoordinates
namespace LineMap

/-!
## Entries before a stop
-/

def entriesBefore (map : LineMap) : Option Int → List Line
  | none => map.toList
  | some stop => map.toList.take stop.toNat

section

variable {map : LineMap} {stop : Option Int} {number : Nat}

theorem getElem?_entriesBefore (h : stop.all ((number : Int) < ·) = true) :
    (map.entriesBefore stop)[number]? = map.toList[number]? := by
  cases stop with
  | none =>
      rfl
  | some stop =>
      have hlt : (number : Int) < stop := of_decide_eq_true h
      exact List.getElem?_take_of_lt (by lia)

theorem getElem?_entriesBefore_of_stop (h : ¬ stop.all ((number : Int) < ·) = true) :
    (map.entriesBefore stop)[number]? = none := by
  cases stop with
  | none =>
      exact absurd rfl h
  | some stop =>
      have hle : ¬ (number : Int) < stop := fun hlt => h (decide_eq_true hlt)
      have hlength : (map.toList.take stop.toNat).length ≤ number := by
        rw [List.length_take]
        lia
      exact List.getElem?_eq_none hlength

end

/-!
## The first occurrence
-/

/-- The place of the first occurrence of a line from a number on. -/
def firstFrom (entries : List Line) (line : Line) (number : Nat) : Except Failure Nat :=
  match (entries.drop number).idxOf? line with
  | some distance => .ok (number + distance)
  | none => .error .notFound

section

variable {entries : List Line} {line entry : Line} {number : Nat}

theorem drop_of_getElem?_eq_some (h : entries[number]? = some entry) :
    entries.drop number = entry :: entries.drop (number + 1) := by
  rcases List.getElem?_eq_some_iff.mp h with ⟨hlt, hentry⟩
  rw [List.drop_eq_getElem_cons hlt, hentry]

theorem firstFrom_of_eq (h : entries[number]? = some line) :
    firstFrom entries line number = .ok number := by
  rw [firstFrom, drop_of_getElem?_eq_some h, List.idxOf?_cons, beq_self_eq_true]
  rfl

theorem firstFrom_of_ne (h : entries[number]? = some entry) (hne : entry ≠ line) :
    firstFrom entries line number = firstFrom entries line (number + 1) := by
  have hbeq : (entry == line) = false := beq_eq_false_iff_ne.mpr hne
  rw [firstFrom, drop_of_getElem?_eq_some h, List.idxOf?_cons, hbeq, firstFrom]
  cases (entries.drop (number + 1)).idxOf? line with
  | none =>
      rfl
  | some distance =>
      exact congrArg Except.ok (by lia)

theorem firstFrom_of_none (h : entries[number]? = none) :
    firstFrom entries line number = .error .notFound := by
  rw [firstFrom, List.drop_eq_nil_of_le (List.getElem?_eq_none_iff.mp h)]
  rfl

end

theorem getElem?_of_line_eq_error {map : LineMap} {number : Nat} {violation : Violation}
    (h : map.line number = .error violation) : map.toList[number]? = none := by
  cases hentry : map.toList[number]? with
  | none =>
      rfl
  | some entry =>
      rw [line_of_getElem? hentry] at h
      cases h

/-- The search stops at the first occurrence before the stop, at the stop, or at the end of
the table. -/
theorem seek_eq_firstFrom (map : LineMap) (line : Line) (stop : Option Int) (number : Nat) :
    map.seek line stop number = firstFrom (map.entriesBefore stop) line number := by
  fun_induction map.seek line stop number with
  | case1 number hbefore hline =>
      have hentry := getElem?_of_line_eq_ok hline
      rw [← getElem?_entriesBefore hbefore] at hentry
      exact (firstFrom_of_eq hentry).symm
  | case2 number hbefore entry hline hne ih =>
      have hentry := getElem?_of_line_eq_ok hline
      rw [← getElem?_entriesBefore hbefore] at hentry
      rw [ih, firstFrom_of_ne hentry hne]
  | case3 number hbefore violation hline hindex =>
      have hnone := getElem?_of_line_eq_error hline
      rw [← getElem?_entriesBefore hbefore] at hnone
      exact (firstFrom_of_none hnone).symm
  | case4 number hbefore violation hline hother =>
      exact absurd violation.isA_index hother
  | case5 number hstop =>
      exact (firstFrom_of_none (getElem?_entriesBefore_of_stop hstop)).symm

/-!
## The slice with the same bounds
-/

theorem take_endPlace (map : LineMap) (start stop : Option Int) :
    map.toList.take (Slice.endPlace ⟨start, stop, none⟩ map.count).toNat =
      map.entriesBefore (stop.map (Slice.fromFront map.count)) := by
  cases stop with
  | none =>
      exact List.take_of_length_le (Nat.le_of_eq map.length_toList)
  | some stop =>
      have hpace : 0 < Slice.pace ⟨start, some stop, none⟩ := Int.one_pos
      have htake := Slice.take_boundPlace map.toList hpace stop
      rwa [length_toList] at htake

theorem length_entriesBefore_le (map : LineMap) (stop : Option Int) :
    (map.entriesBefore stop).length ≤ map.count := by
  rw [← length_toList]
  cases stop with
  | none =>
      exact Nat.le_refl _
  | some stop =>
      exact List.length_take_le' _ _

theorem slice_from_start (map : LineMap) (start : Int) (stop : Option Int) :
    map.slice ⟨some start, stop, none⟩ =
      .ok ((map.entriesBefore (stop.map (Slice.fromFront map.count))).drop
        (Slice.fromFront map.count start).toNat) := by
  have hpace : 0 < Slice.pace ⟨some start, stop, none⟩ := Int.one_pos
  have hdrop := Slice.drop_boundPlace
    (length_entriesBefore_le map (stop.map (Slice.fromFront map.count))) hpace start
  rw [slice_of_unit_step, take_endPlace, ← hdrop]
  rfl

theorem indexOf_eq_firstFrom (map : LineMap) (line : Line) (start : Int) (stop : Option Int) :
    map.indexOf line start stop =
      firstFrom (map.entriesBefore (stop.map (Slice.fromFront map.count))) line
        (Slice.fromFront map.count start).toNat := by
  rw [indexOf, seek_eq_firstFrom]

section

variable {entries : List Line} {line : Line} {number : Nat}

theorem firstFrom_eq_ok_iff {found : Nat} :
    firstFrom entries line number = .ok found ↔
      ∃ distance : Nat, (entries.drop number).idxOf? line = some distance ∧
        (found : Int) - number = distance := by
  unfold firstFrom
  cases (entries.drop number).idxOf? line with
  | none =>
      simp
  | some distance =>
      simp only [Except.ok.injEq, Option.some.injEq, exists_eq_left']
      lia

theorem firstFrom_of_notMem (h : line ∉ entries.drop number) :
    firstFrom entries line number = .error .notFound := by
  rw [firstFrom, List.idxOf?_eq_none_iff.mpr h]

theorem exists_firstFrom_of_mem (h : line ∈ entries.drop number) :
    ∃ found, firstFrom entries line number = .ok found := by
  unfold firstFrom
  cases hfirst : (entries.drop number).idxOf? line with
  | none =>
      exact absurd h (List.idxOf?_eq_none_iff.mp hfirst)
  | some distance =>
      exact ⟨number + distance, rfl⟩

theorem exists_firstFrom_iff :
    (∃ found, firstFrom entries line number = .ok found) ↔ line ∈ entries.drop number := by
  constructor
  · rintro ⟨found, hfound⟩
    by_contra hnot
    rw [firstFrom_of_notMem hnot] at hfound
    cases hfound
  · exact exists_firstFrom_of_mem

theorem firstFrom_eq_error_iff :
    firstFrom entries line number = .error .notFound ↔ line ∉ entries.drop number := by
  constructor
  · intro herror hmem
    rcases exists_firstFrom_of_mem hmem with ⟨found, hfound⟩
    rw [herror] at hfound
    cases hfound
  · exact firstFrom_of_notMem

end

/-!
## Occurrences
-/

theorem indexOf_all (map : LineMap) (line : Line) :
    map.indexOf line 0 none = firstFrom map.toList line 0 :=
  indexOf_eq_firstFrom map line 0 none

theorem mem_iff_exists_indexOf {map : LineMap} {line : Line} :
    line ∈ map ↔ ∃ found, map.indexOf line 0 none = .ok found := by
  rw [indexOf_all, exists_firstFrom_iff]
  exact mem_iff

theorem mem_iff_occurrences_pos {map : LineMap} {line : Line} :
    line ∈ map ↔ 0 < map.occurrences line :=
  List.count_pos_iff.symm

/-- The places at which a line stands. -/
def placesOf (map : LineMap) (line : Line) : List Int :=
  (map.toList.zipIdx.filter fun entry => entry.1 = line).map fun entry => (entry.2 : Int)

theorem mem_placesOf {map : LineMap} {line : Line} {place : Int} :
    place ∈ map.placesOf line ↔ map.line place = .ok line := by
  rw [placesOf, List.mem_map, line_eq_ok_iff]
  constructor
  · rintro ⟨⟨entry, i⟩, hentry, rfl⟩
    rw [List.mem_filter, List.mem_zipIdx_iff_getElem?] at hentry
    have heq : entry = line := of_decide_eq_true hentry.right
    rw [← heq]
    exact ⟨Int.natCast_nonneg i, hentry.left⟩
  · rintro ⟨hlow, hentry⟩
    refine ⟨(line, place.toNat), ?_, Int.toNat_of_nonneg hlow⟩
    rw [List.mem_filter, List.mem_zipIdx_iff_getElem?]
    exact ⟨hentry, decide_eq_true rfl⟩

theorem nodup_placesOf (map : LineMap) (line : Line) : (map.placesOf line).Nodup := by
  have hplaces : (map.toList.zipIdx.map Prod.snd).Nodup := by
    rw [List.zipIdx_map_snd]
    exact List.nodup_range' 1
  have hfiltered : ((map.toList.zipIdx.filter fun entry => entry.1 = line).map Prod.snd).Nodup :=
    (List.filter_sublist.map Prod.snd).nodup hplaces
  have hcast : map.placesOf line =
      ((map.toList.zipIdx.filter fun entry => entry.1 = line).map Prod.snd).map Int.ofNat := by
    rw [List.map_map]
    rfl
  rw [hcast]
  exact hfiltered.map fun _ _ heq => Int.ofNat.inj heq

theorem length_placesOf (map : LineMap) (line : Line) :
    (map.placesOf line).length = map.occurrences line := by
  have hcount : map.toList.count line = (map.toList.zipIdx.map Prod.fst).count line := by
    rw [List.zipIdx_map_fst]
  rw [placesOf, List.length_map, occurrences, hcount, List.count_eq_countP, List.countP_map,
    List.countP_eq_length_filter]
  rfl

/-- Numbered by place, a table holds no line twice. -/
theorem occurrences_of_numbered {map : LineMap} (hnumbered : Numbered 0 map.toList) {line : Line}
    (h : line ∈ map) : map.occurrences line = 1 := by
  have hpos := mem_iff_occurrences_pos.mp h
  have hnodup := map.nodup_placesOf line
  have hsame : ∀ place ∈ map.placesOf line, place = line.number := by
    intro place hplace
    rcases line_eq_ok_iff.mp (mem_placesOf.mp hplace) with ⟨hlow, hentry⟩
    have hnumber := hnumbered place.toNat line hentry
    lia
  rw [← length_placesOf] at hpos ⊢
  match hplaces : map.placesOf line with
  | [] =>
      rw [hplaces] at hpos
      cases hpos
  | [place] =>
      rfl
  | place :: other :: rest =>
      rw [hplaces] at hnodup hsame
      have hplace := hsame place List.mem_cons_self
      have hother := hsame other (List.mem_cons_of_mem place List.mem_cons_self)
      rw [hplace, hother] at hnodup
      exact absurd List.mem_cons_self (List.nodup_cons.mp hnodup).left

/-- Numbered by place, the number of a line is the place at which it is found. -/
theorem number_of_indexOf {map : LineMap} (hnumbered : Numbered 0 map.toList) {line : Line}
    {found : Nat} (h : map.indexOf line 0 none = .ok found) : (found : Int) = line.number := by
  rw [indexOf_all, firstFrom_eq_ok_iff] at h
  rcases h with ⟨distance, hfirst, hfound⟩
  rcases List.idxOf?_eq_some_iff.mp hfirst with ⟨hlt, hentry, _hearlier⟩
  have hnumber := hnumbered distance line (List.getElem?_eq_some_iff.mpr ⟨hlt, hentry⟩)
  lia

/-- Searching a map agrees with slicing it, and the ways to ask for a line agree with each
other. -/
theorem indexOf_agrees_with_slice (map : LineMap) (line : Line) :
    (∀ (start : Int) (stop : Option Int),
      let first := if start < 0 then map.count + start else start
      ∃ picked, map.slice ⟨some start, stop, none⟩ = .ok picked ∧
        (∀ found : Nat, map.indexOf line start stop = .ok found ↔
          ∃ distance : Nat, picked.idxOf? line = some distance ∧
            (found : Int) - max first 0 = distance) ∧
        (map.indexOf line start stop = .error .notFound ↔ line ∉ picked)) ∧
    (line ∈ map ↔ 0 < map.occurrences line) ∧
    (line ∈ map ↔ ∃ found, map.indexOf line 0 none = .ok found) ∧
    (∃ places : List Int, places.Nodup ∧ places.length = map.occurrences line ∧
      ∀ place, place ∈ places ↔ map.line place = .ok line) ∧
    map.reversed = .ok map.toList.reverse ∧
    (Numbered 0 map.toList → line ∈ map →
      map.occurrences line = 1 ∧
        ∃ found : Nat, map.indexOf line 0 none = .ok found ∧ (found : Int) = line.number) := by
  refine ⟨?_, mem_iff_occurrences_pos, mem_iff_exists_indexOf,
    ⟨map.placesOf line, map.nodup_placesOf line, map.length_placesOf line,
      fun place => mem_placesOf⟩, reversed_eq map, ?_⟩
  · intro start stop first
    have hfirst : max first 0 = (Slice.fromFront map.count start).toNat := by
      show max (if start < 0 then _ else _) 0 = _
      unfold Slice.fromFront
      split
      · lia
      · lia
    refine ⟨_, slice_from_start map start stop, ?_, ?_⟩
    · intro found
      rw [indexOf_eq_firstFrom, firstFrom_eq_ok_iff, hfirst]
    · rw [indexOf_eq_firstFrom, firstFrom_eq_error_iff]
  · intro hnumbered hmem
    rcases mem_iff_exists_indexOf.mp hmem with ⟨found, hfound⟩
    exact ⟨occurrences_of_numbered hnumbered hmem, found, hfound,
      number_of_indexOf hnumbered hfound⟩

theorem indexOf_agrees_with_slice_numbered :
    let map : LineMap := ⟨#[⟨0, .point 0⟩, ⟨1, .joining 0 2⟩, ⟨2, .joining 0 2⟩], by decide⟩
    let line : Line := ⟨2, .joining 0 2⟩
    Numbered 0 map.toList ∧ line ∈ map ∧ map.occurrences line = 1 ∧
      ∃ found : Nat, map.indexOf line 0 none = .ok found ∧ (found : Int) = line.number := by
  intro map line
  rcases indexOf_agrees_with_slice map line with ⟨_, _, _, _, _, hnumbered⟩
  have hnumbers : Numbered 0 map.toList := by
    decide
  have hmem : line ∈ map := by
    decide
  exact ⟨hnumbers, hmem, hnumbered hnumbers hmem⟩

end LineMap
end TextCoordinates
