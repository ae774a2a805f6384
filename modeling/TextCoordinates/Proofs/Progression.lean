import TextCoordinates.Progression

/-!
# Terms of a progression

The terms of a progression are the numbers from its start on and before its stop whose
distance from the start is a multiple of the step, each of them once.  Counting down is
counting up in the mirror.
-/

namespace TextCoordinates
namespace Progression

/-!
## Counting up
-/

/-- The length is rounded up, so that the last term is the last one before the stop. -/
theorem lt_length_up {p : Progression} (h : 0 < p.step) {i : Nat} :
    i < p.length ↔ p.term i < p.stop := by
  rw [length_up h, term, Int.lt_toNat, ← Int.add_one_le_iff, Int.le_ediv_iff_mul_le h,
    Int.add_mul, Int.one_mul, Int.mul_comm]
  lia

theorem mem_toList_up {p : Progression} (h : 0 < p.step) {t : Int} :
    t ∈ p.toList ↔ p.start ≤ t ∧ t < p.stop ∧ p.step ∣ t - p.start := by
  rw [mem_toList]
  constructor
  · rintro ⟨i, hi, rfl⟩
    have hnonneg : 0 ≤ p.step * i := Int.mul_nonneg (Int.le_of_lt h) (Int.natCast_nonneg i)
    have hterm : p.term i - p.start = p.step * i := by
      rw [term]
      lia
    refine ⟨?_, (lt_length_up h).mp hi, ?_⟩
    · lia
    · exact ⟨i, hterm⟩
  · rintro ⟨hstart, hstop, k, hk⟩
    have hnonneg : 0 ≤ k := Int.nonneg_of_mul_nonneg_right (by lia) h
    obtain ⟨i, rfl⟩ := Int.eq_ofNat_of_zero_le hnonneg
    have hterm : p.term i = t := by
      rw [term]
      lia
    refine ⟨i, ?_, hterm⟩
    rw [lt_length_up h, hterm]
    exact hstop

theorem pairwise_toList_up {p : Progression} (h : 0 < p.step) :
    p.toList.Pairwise (· < ·) := by
  rw [toList, List.pairwise_map]
  apply List.pairwise_lt_range.imp
  intro i j hlt
  exact Int.add_lt_add_left (Int.mul_lt_mul_of_pos_left (Int.ofNat_lt.mpr hlt) h) p.start

/-- In steps of one, a progression from one place to another visits all places between. -/
theorem toList_unit (start stop : Nat) :
    toList ⟨start, stop, 1⟩ =
      (List.range (stop - start)).map fun i => ((start + i : Nat) : Int) := by
  have hlength : length ⟨start, stop, 1⟩ = stop - start := by
    rw [length_up Int.one_pos, Int.ediv_one]
    lia
  rw [toList, hlength]
  apply List.map_congr_left
  intro i hi
  rw [term, Int.one_mul, Int.natCast_add]

/-!
## Counting down
-/

def mirror (p : Progression) : Progression :=
  ⟨-p.start, -p.stop, -p.step⟩

@[simp] theorem length_mirror (p : Progression) : p.mirror.length = p.length := by
  unfold length mirror
  grind

theorem toList_mirror (p : Progression) : p.mirror.toList = p.toList.map (- ·) := by
  rw [toList, toList, length_mirror, List.map_map]
  apply List.map_congr_left
  intro i hi
  simp only [Function.comp, term, mirror]
  lia

theorem mem_toList_mirror {p : Progression} {t : Int} :
    -t ∈ p.mirror.toList ↔ t ∈ p.toList := by
  rw [toList_mirror, List.mem_map]
  constructor
  · rintro ⟨u, hu, hneg⟩
    rwa [← Int.neg_inj.mp hneg]
  · intro ht
    exact ⟨t, ht, rfl⟩

theorem mem_toList_down {p : Progression} (h : p.step < 0) {t : Int} :
    t ∈ p.toList ↔ p.stop < t ∧ t ≤ p.start ∧ p.step ∣ t - p.start := by
  have hmirror : 0 < p.mirror.step := Int.neg_pos_of_neg h
  rw [← mem_toList_mirror, mem_toList_up hmirror]
  have hdistance : -t - -p.start = -(t - p.start) := by
    lia
  simp only [mirror, hdistance, Int.neg_dvd, Int.dvd_neg]
  lia

theorem pairwise_toList_down {p : Progression} (h : p.step < 0) :
    p.toList.Pairwise (fun t u => u < t) := by
  have hmirror : 0 < p.mirror.step := Int.neg_pos_of_neg h
  have hpairwise := pairwise_toList_up hmirror
  rw [toList_mirror, List.pairwise_map] at hpairwise
  apply hpairwise.imp
  intro t u hlt
  exact Int.neg_lt_neg_iff.mp hlt

/-- Counting down from the last of some places visits them in reverse. -/
theorem toList_countdown (count : Nat) :
    toList ⟨count - 1, -1, -1⟩ = (toList ⟨0, count, 1⟩).reverse := by
  have hdown : length ⟨count - 1, -1, -1⟩ = count := by
    rw [length_down (by decide : (-1 : Int) < 0), Int.neg_neg, Int.ediv_one]
    lia
  have hup : length ⟨0, count, 1⟩ = count := by
    rw [length_up Int.one_pos, Int.ediv_one]
    lia
  apply List.ext_getElem
  · simp [hdown, hup]
  · intro i hleft hright
    rw [length_toList, hdown] at hleft
    rw [List.getElem_reverse]
    simp only [toList, List.getElem_map, List.getElem_range, List.length_map, List.length_range,
      hup, term]
    lia

end Progression
end TextCoordinates
