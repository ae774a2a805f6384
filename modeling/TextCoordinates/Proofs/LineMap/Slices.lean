import Mathlib.Data.List.Basic
import TextCoordinates.LineMap.Sequence
import TextCoordinates.Proofs.Slice

/-!
# Slices of a line map

A slice of a line map gives the entries at the places that it picks, in the order in which
it picks them.  All of them are places of entries, so asking for them by number gives the
same lines.  In steps of one a slice is a run of the table.
-/

namespace TextCoordinates
namespace LineMap

/-!
## Asking for the places that are picked
-/

theorem exists_line?_of_mem_range {map : LineMap} {place : Int} (hlow : 0 ≤ place)
    (hhigh : place < map.count) :
    ∃ line, map.line? place = some line ∧ map.line place = .ok line := by
  obtain ⟨place, rfl⟩ := Int.eq_ofNat_of_zero_le hlow
  have hlt : place < map.lines.size := Int.ofNat_lt.mp hhigh
  have hentry : map.toList[place]? = some map.lines[place] := by
    rw [← lines_getElem?]
    exact Array.getElem?_eq_getElem hlt
  refine ⟨_, ?_, line_of_getElem? hentry⟩
  rw [line?_natCast, lines_getElem?, hentry]

theorem mapM_line_of_mem_range {map : LineMap} {places : List Int}
    (h : ∀ place ∈ places, 0 ≤ place ∧ place < map.count) :
    places.mapM map.line = .ok (places.filterMap map.line?) := by
  induction places with
  | nil =>
      rfl
  | cons place places ih =>
      have hrest := ih fun other hother => h other (List.mem_cons_of_mem place hother)
      rcases h place List.mem_cons_self with ⟨hlow, hhigh⟩
      rcases exists_line?_of_mem_range hlow hhigh with ⟨line, hentry, hline⟩
      rw [List.mapM_cons, hline, hrest, List.filterMap_cons_some hentry]
      rfl

section

variable {map : LineMap} {slice : Slice} {steps : Progression}

theorem mapM_line_of_resolve? (h : slice.resolve? map.count = some steps) :
    steps.toList.mapM map.line = .ok (steps.toList.filterMap map.line?) := by
  apply mapM_line_of_mem_range
  intro place hplace
  exact ((Slice.mem_toList_resolve? h).mp hplace).mem_range

theorem slice_of_resolve? (h : slice.resolve? map.count = some steps) :
    map.slice slice = .ok (steps.toList.filterMap map.line?) := by
  have hentries : (steps.toList.filterMap fun place => map.lines[place.toNat]?) =
      steps.toList.filterMap map.line? := by
    apply List.filterMap_congr
    intro place hplace
    have hlow := ((Slice.mem_toList_resolve? h).mp hplace).mem_range.left
    rw [line?, if_neg (Int.not_lt.mpr hlow)]
  have hselect : slice.select? map.lines = some (steps.toList.filterMap map.line?) := by
    rw [Slice.select?, show map.lines.size = map.count from rfl, h, ← hentries]
    rfl
  rw [LineMap.slice, hselect]

end

/-!
## Runs of the table
-/

/-- The entries from one place on and before another. -/
theorem filterMap_line?_unit (map : LineMap) (first stop : Nat) :
    (Progression.toList ⟨first, stop, 1⟩).filterMap map.line? =
      (map.toList.take stop).drop first := by
  rw [← Slice.filterMap_getElem?_unit, Progression.toList_unit, List.filterMap_map,
    List.filterMap_map]
  apply List.filterMap_congr
  intro i hi
  rw [Function.comp, line?_natCast, lines_getElem?]
  rfl

theorem slice_of_unit_step (map : LineMap) (start stop : Option Int) :
    let slice : Slice := ⟨start, stop, none⟩
    map.slice slice =
      .ok ((map.toList.take (slice.endPlace map.count).toNat).drop
        (slice.firstPlace map.count).toNat) := by
  intro slice
  rw [LineMap.slice, Slice.select?_of_unit_step]
  rfl

/-!
## Counting down
-/

def backwards : Slice :=
  ⟨none, none, some (-1)⟩

theorem resolve?_backwards (count : Nat) :
    backwards.resolve? count = some ⟨count - 1, -1, -1⟩ := rfl

theorem filterMap_line?_countdown (map : LineMap) :
    (Progression.toList ⟨map.count - 1, -1, -1⟩).filterMap map.line? = map.toList.reverse := by
  have hall : (Progression.toList ⟨0, map.count, 1⟩).filterMap map.line? = map.toList := by
    have hrun := filterMap_line?_unit map 0 map.count
    rwa [List.drop_zero, List.take_of_length_le (Nat.le_of_eq map.length_toList)] at hrun
  rw [Progression.toList_countdown, List.filterMap_reverse, hall]

theorem slice_backwards (map : LineMap) : map.slice backwards = .ok map.toList.reverse := by
  rw [slice_of_resolve? (resolve?_backwards map.count), filterMap_line?_countdown]

/-- Asking for the entries from the last one down never fails. -/
theorem reversed_eq (map : LineMap) : map.reversed = .ok map.toList.reverse := by
  rw [reversed, Progression.traverse_eq_mapM,
    mapM_line_of_resolve? (resolve?_backwards map.count), filterMap_line?_countdown]

/-!
## All slices
-/

theorem exists_places_of_slice (map : LineMap) {slice : Slice} (h : slice.step ≠ some 0) :
    ∃ (places : List Int) (lines : List Line),
      (∀ place, place ∈ places ↔
        0 ≤ place ∧ place < map.count ∧ slice.Picks map.count place) ∧
      places.Pairwise slice.PicksBefore ∧
      map.slice slice = .ok lines ∧ places.mapM map.line = .ok lines := by
  have hsteps := Slice.resolve?_of_step_ne h map.count
  refine ⟨_, _, ?_, Slice.pairwise_resolve? hsteps, slice_of_resolve? hsteps,
    mapM_line_of_resolve? hsteps⟩
  intro place
  rw [Slice.mem_toList_resolve? hsteps]
  constructor
  · intro hpicks
    exact ⟨hpicks.mem_range.left, hpicks.mem_range.right, hpicks⟩
  · intro hplace
    exact hplace.right.right

theorem slice_of_zero_step (map : LineMap) (start stop : Option Int) :
    map.slice ⟨start, stop, some 0⟩ = .error .zeroStep := by
  have hselect : Slice.select? ⟨start, stop, some 0⟩ map.lines = none := by
    rw [Slice.select?, Slice.resolve?_eq_none_iff.mpr rfl]
    rfl
  rw [LineMap.slice, hselect]

/-- Cut at any bound, a table falls into two slices: one ends where the other one starts. -/
theorem exists_slices_of_bound (map : LineMap) (bound : Int) :
    ∃ front back, map.slice ⟨none, some bound, none⟩ = .ok front ∧
      map.slice ⟨some bound, none, none⟩ = .ok back ∧ front ++ back = map.toList := by
  refine ⟨_, _, slice_of_unit_step map none (some bound), slice_of_unit_step map (some bound) none,
    ?_⟩
  have hcut : Slice.endPlace ⟨none, some bound, none⟩ map.count =
      Slice.firstPlace ⟨some bound, none, none⟩ map.count := rfl
  have hfirst : Slice.firstPlace ⟨none, some bound, none⟩ map.count = 0 := rfl
  have hend : Slice.endPlace ⟨some bound, none, none⟩ map.count = map.count := rfl
  have hall : map.toList.take map.count = map.toList :=
    List.take_of_length_le (Nat.le_of_eq map.length_toList)
  rw [hcut, hfirst, hend, Int.toNat_zero, Int.toNat_natCast, List.drop_zero, hall,
    List.take_append_drop]

theorem slice_of_one_place (map : LineMap) {place : Int} (hlow : 0 ≤ place)
    (hhigh : place < map.count) :
    ∃ line, map.line place = .ok line ∧
      map.slice ⟨some place, some (place + 1), none⟩ = .ok [line] := by
  rcases exists_line?_of_mem_range hlow hhigh with ⟨line, _hentry, hline⟩
  have hentry := (line_eq_ok_iff.mp hline).right
  refine ⟨line, hline, ?_⟩
  have hpace : 0 < Slice.pace ⟨some place, some (place + 1), none⟩ := Int.one_pos
  have hfirst : Slice.firstPlace ⟨some place, some (place + 1), none⟩ map.count = place :=
    Slice.boundPlace_of_mem_range hpace hlow (Int.le_of_lt hhigh)
  have hend : Slice.endPlace ⟨some place, some (place + 1), none⟩ map.count = place + 1 :=
    Slice.boundPlace_of_mem_range hpace (by lia) hhigh
  have hnext : (place + 1).toNat = place.toNat + 1 := by
    lia
  rw [slice_of_unit_step, hfirst, hend, hnext, List.drop_take, Nat.add_sub_cancel_left,
    List.take_one, List.head?_drop, hentry]
  rfl

/-- A slice gives the entries at the places that it picks, in their order. -/
theorem slice_picks_places (map : LineMap) :
    (∀ slice : Slice, slice.step ≠ some 0 →
      ∃ (places : List Int) (lines : List Line),
        (∀ place, place ∈ places ↔
          0 ≤ place ∧ place < map.count ∧ slice.Picks map.count place) ∧
        places.Pairwise slice.PicksBefore ∧
        map.slice slice = .ok lines ∧ places.mapM map.line = .ok lines) ∧
    (∀ start stop, map.slice ⟨start, stop, some 0⟩ = .error .zeroStep) ∧
    (∀ bound : Int, ∃ front back, map.slice ⟨none, some bound, none⟩ = .ok front ∧
      map.slice ⟨some bound, none, none⟩ = .ok back ∧ front ++ back = map.toList) ∧
    (∃ lines, map.slice ⟨none, none, some (-1)⟩ = .ok lines ∧ map.reversed = .ok lines) ∧
    (∀ place : Int, 0 ≤ place → place < map.count →
      ∃ line, map.line place = .ok line ∧
        map.slice ⟨some place, some (place + 1), none⟩ = .ok [line]) := by
  refine ⟨?_, slice_of_zero_step map, exists_slices_of_bound map, ?_, ?_⟩
  · intro slice hstep
    exact exists_places_of_slice map hstep
  · exact ⟨_, slice_backwards map, reversed_eq map⟩
  · intro place hlow hhigh
    exact slice_of_one_place map hlow hhigh

theorem slice_picks_places_backwards :
    let map : LineMap := ⟨#[⟨0, .point 0⟩, ⟨7, .point 0⟩, ⟨7, .point 4⟩], by decide⟩
    let slice : Slice := ⟨some (-1), none, some (-2)⟩
    slice.step ≠ some 0 ∧
      (∃ (places : List Int) (lines : List Line), 2 ∈ places ∧ 1 ∉ places ∧ 0 ∈ places ∧
        map.slice slice = .ok lines ∧ places.mapM map.line = .ok lines) ∧
      (0 : Int) ≤ 2 ∧ (2 : Int) < map.count ∧
      ∃ line, map.line 2 = .ok line ∧ map.slice ⟨some 2, some (2 + 1), none⟩ = .ok [line] := by
  intro map slice
  rcases slice_picks_places map with ⟨hslices, _, _, _, hsingle⟩
  rcases hslices slice (by decide) with ⟨places, lines, hplaces, _, hslice, hlines⟩
  refine ⟨by decide, ⟨places, lines, ?_, ?_, ?_, hslice, hlines⟩, by decide, by decide,
    hsingle 2 (by decide) (by decide)⟩
  · rw [hplaces]
    decide
  · rw [hplaces]
    decide
  · rw [hplaces]
    decide

end LineMap
end TextCoordinates
