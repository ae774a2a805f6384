import TextCoordinates.Proofs.Progression
import TextCoordinates.Slice

/-!
# Places of a slice

A slice picks places of a sequence: those from its first place on and before its end whose
distance from the first is a multiple of the pace.  Forwards a bound stands for a place of
the sequence or for its end; backwards, for a place or for the one before the front.  So
every place that is picked exists.
-/

namespace TextCoordinates
namespace Slice

/-- The step, which is one if it is left open. -/
def pace (slice : Slice) : Int :=
  slice.step.getD 1

/-- A bound below zero counts from the end, and a bound beyond an end is moved to it. -/
def boundPlace (slice : Slice) (count : Nat) (bound : Int) : Int :=
  let place := if bound < 0 then bound + count else bound
  if 0 < slice.pace then max 0 (min count place) else max (-1) (min (count - 1) place)

def firstPlace (slice : Slice) (count : Nat) : Int :=
  match slice.start with
  | some bound => slice.boundPlace count bound
  | none => if 0 < slice.pace then 0 else count - 1

def endPlace (slice : Slice) (count : Nat) : Int :=
  match slice.stop with
  | some bound => slice.boundPlace count bound
  | none => if 0 < slice.pace then count else -1

def Picks (slice : Slice) (count : Nat) (place : Int) : Prop :=
  (if 0 < slice.pace then
    slice.firstPlace count ≤ place ∧ place < slice.endPlace count
  else
    slice.endPlace count < place ∧ place ≤ slice.firstPlace count) ∧
  slice.pace ∣ place - slice.firstPlace count

instance (slice : Slice) (count : Nat) (place : Int) : Decidable (slice.Picks count place) :=
  inferInstanceAs (Decidable (ite _ _ _ ∧ _))

/-- The order in which a slice picks two places. -/
def PicksBefore (slice : Slice) (place other : Int) : Prop :=
  if 0 < slice.pace then place < other else other < place

/-!
## Bounds
-/

theorem boundPlace_of_forwards {slice : Slice} (h : 0 < slice.pace) (count : Nat) (bound : Int) :
    slice.boundPlace count bound = clamp 0 count (fromFront count bound) := by
  rw [boundPlace, if_pos h, clamp, fromFront]

theorem boundPlace_of_backwards {slice : Slice} (h : ¬ 0 < slice.pace) (count : Nat)
    (bound : Int) :
    slice.boundPlace count bound = clamp (-1) (count - 1) (fromFront count bound) := by
  rw [boundPlace, if_neg h, clamp, fromFront]

theorem fromFront_natCast (count bound : Nat) : fromFront count bound = bound :=
  if_neg (Int.not_lt.mpr (Int.natCast_nonneg bound))

theorem boundPlace_nonneg {slice : Slice} (h : 0 < slice.pace) (count : Nat) (bound : Int) :
    0 ≤ slice.boundPlace count bound := by
  rw [boundPlace, if_pos h]
  exact Int.le_max_left _ _

/-- A bound that names a place of the sequence or its end stands for that place. -/
theorem boundPlace_of_mem_range {slice : Slice} (h : 0 < slice.pace) {count : Nat} {bound : Int}
    (hlow : 0 ≤ bound) (hhigh : bound ≤ count) : slice.boundPlace count bound = bound := by
  rw [boundPlace, if_pos h, if_neg (Int.not_lt.mpr hlow), Int.min_eq_right hhigh,
    Int.max_eq_right hlow]

theorem firstPlace_nonneg {slice : Slice} (h : 0 < slice.pace) (count : Nat) :
    0 ≤ slice.firstPlace count := by
  unfold firstPlace
  split
  · exact boundPlace_nonneg h count _
  · exact Int.le_of_eq (if_pos h).symm

theorem endPlace_nonneg {slice : Slice} (h : 0 < slice.pace) (count : Nat) :
    0 ≤ slice.endPlace count := by
  unfold endPlace
  split
  · exact boundPlace_nonneg h count _
  · rw [if_pos h]
    exact Int.natCast_nonneg count

theorem endPlace_le {slice : Slice} (h : 0 < slice.pace) (count : Nat) :
    slice.endPlace count ≤ count := by
  unfold endPlace
  split
  · rw [boundPlace_of_forwards h, clamp]
    lia
  · exact Int.le_of_eq (if_pos h)

theorem firstPlace_lt {slice : Slice} (h : ¬ 0 < slice.pace) (count : Nat) :
    slice.firstPlace count < count := by
  unfold firstPlace
  split
  · rw [boundPlace_of_backwards h, clamp]
    lia
  · rw [if_neg h]
    lia

theorem neg_one_le_endPlace {slice : Slice} (h : ¬ 0 < slice.pace) (count : Nat) :
    -1 ≤ slice.endPlace count := by
  unfold endPlace
  split
  · rw [boundPlace_of_backwards h]
    exact Int.le_max_left _ _
  · exact Int.le_of_eq (if_neg h).symm

/-- No place outside the sequence is picked. -/
theorem Picks.mem_range {slice : Slice} {count : Nat} {place : Int}
    (h : slice.Picks count place) : 0 ≤ place ∧ place < count := by
  rcases h with ⟨hbetween, _hpace⟩
  split at hbetween
  · rename_i hforwards
    exact ⟨Int.le_trans (firstPlace_nonneg hforwards count) hbetween.left,
      Int.lt_of_lt_of_le hbetween.right (endPlace_le hforwards count)⟩
  · rename_i hbackwards
    have hend := neg_one_le_endPlace hbackwards count
    exact ⟨by lia, Int.lt_of_le_of_lt hbetween.right (firstPlace_lt hbackwards count)⟩

/-!
## Taking and dropping up to a bound

A list does not notice that a bound beyond its end is moved to the end.
-/

theorem take_boundPlace (entries : List α) {slice : Slice} (h : 0 < slice.pace) (bound : Int) :
    entries.take (slice.boundPlace entries.length bound).toNat =
      entries.take (Slice.fromFront entries.length bound).toNat := by
  rw [List.take_eq_take_iff, Slice.boundPlace_of_forwards h, Slice.clamp]
  lia

theorem drop_boundPlace {entries : List α} {count : Nat} (hle : entries.length ≤ count)
    {slice : Slice} (h : 0 < slice.pace) (bound : Int) :
    entries.drop (slice.boundPlace count bound).toNat =
      entries.drop (Slice.fromFront count bound).toNat := by
  rw [List.drop_eq_drop_iff, Slice.boundPlace_of_forwards h, Slice.clamp]
  lia

/-!
## Steps
-/

theorem pace_neg {slice : Slice} (h : slice.step ≠ some 0) (hbackwards : ¬ 0 < slice.pace) :
    slice.pace < 0 := by
  unfold pace at hbackwards ⊢
  cases hstep : slice.step with
  | none =>
      rw [hstep] at hbackwards
      exact absurd Int.one_pos hbackwards
  | some step =>
      rw [hstep] at h hbackwards
      have hne : step ≠ 0 := fun hzero => h (congrArg some hzero)
      exact Int.lt_iff_le_and_ne.mpr ⟨Int.not_lt.mp hbackwards, hne⟩

theorem resolve?_of_step_ne {slice : Slice} (h : slice.step ≠ some 0) (count : Nat) :
    slice.resolve? count =
      some ⟨slice.firstPlace count, slice.endPlace count, slice.pace⟩ := by
  have hpace : slice.step.getD 1 = slice.pace := rfl
  unfold resolve?
  simp only [hpace]
  split
  · rename_i hforwards
    simp only [← boundPlace_of_forwards hforwards]
    unfold firstPlace endPlace
    cases slice.start <;> cases slice.stop <;> simp only [if_pos hforwards] <;> rfl
  · rename_i hbackwards
    simp only [← boundPlace_of_backwards hbackwards, if_pos (pace_neg h hbackwards)]
    unfold firstPlace endPlace
    cases slice.start <;> cases slice.stop <;> simp only [if_neg hbackwards] <;> rfl

section

variable {slice : Slice} {count : Nat} {steps : Progression}

theorem step_ne_of_resolve? (h : slice.resolve? count = some steps) : slice.step ≠ some 0 := by
  intro hzero
  rw [resolve?_eq_none_iff.mpr hzero] at h
  cases h

theorem mem_toList_resolve? (h : slice.resolve? count = some steps) {place : Int} :
    place ∈ steps.toList ↔ slice.Picks count place := by
  have hstep := step_ne_of_resolve? h
  rw [resolve?_of_step_ne hstep] at h
  cases h
  unfold Picks
  split
  · rename_i hforwards
    rw [Progression.mem_toList_up hforwards, and_assoc]
  · rename_i hbackwards
    rw [Progression.mem_toList_down (pace_neg hstep hbackwards), and_assoc]

theorem pairwise_resolve? (h : slice.resolve? count = some steps) :
    steps.toList.Pairwise slice.PicksBefore := by
  have hstep := step_ne_of_resolve? h
  rw [resolve?_of_step_ne hstep] at h
  cases h
  by_cases hforwards : 0 < slice.pace
  · apply (Progression.pairwise_toList_up hforwards).imp
    intro place other hlt
    rwa [PicksBefore, if_pos hforwards]
  · apply (Progression.pairwise_toList_down (pace_neg hstep hforwards)).imp
    intro place other hlt
    rwa [PicksBefore, if_neg hforwards]

end

/-!
## Runs

In steps of one a slice picks a run of the entries.
-/

theorem filterMap_range_getElem? (entries : List α) (first count : Nat) :
    ((List.range count).filterMap fun i => entries[first + i]?) =
      (entries.drop first).take count := by
  induction count with
  | zero =>
      rfl
  | succ count ih =>
      rw [List.range_succ, List.filterMap_append, ih, List.take_add_one, List.getElem?_drop]
      cases hentry : entries[first + count]? with
      | none =>
          rw [List.filterMap_cons_none (f := fun i => entries[first + i]?) hentry]
          rfl
      | some entry =>
          rw [List.filterMap_cons_some (f := fun i => entries[first + i]?) hentry]
          rfl

/-- The entries from one place on and before another. -/
theorem filterMap_getElem?_unit (entries : List α) (first stop : Nat) :
    ((Progression.toList ⟨first, stop, 1⟩).filterMap fun place => entries[place.toNat]?) =
      (entries.take stop).drop first := by
  rw [Progression.toList_unit, List.filterMap_map, List.drop_take, ← filterMap_range_getElem?]
  rfl

theorem select?_of_unit_step (entries : Array α) (start stop : Option Int) :
    let slice : Slice := ⟨start, stop, none⟩
    slice.select? entries =
      some ((entries.toList.take (slice.endPlace entries.size).toNat).drop
        (slice.firstPlace entries.size).toNat) := by
  intro slice
  have hpace : 0 < slice.pace := Int.one_pos
  have hstep : slice.step ≠ some 0 := Option.some_ne_none 0 |>.symm
  obtain ⟨first, hfirst⟩ := Int.eq_ofNat_of_zero_le (firstPlace_nonneg hpace entries.size)
  obtain ⟨stop, hstop⟩ := Int.eq_ofNat_of_zero_le (endPlace_nonneg hpace entries.size)
  rw [select?, resolve?_of_step_ne hstep, hfirst, hstop, Option.map_some, Int.toNat_natCast,
    Int.toNat_natCast, ← filterMap_getElem?_unit]
  simp only [Array.getElem?_toList]
  rfl

end Slice
end TextCoordinates
