import Mathlib.Algebra.Group.Nat.Defs
import Mathlib.Data.List.Nodup
import TextCoordinates.Proofs.LineMap.Course

/-!
# Halving

Whatever an entry says, a look at it leaves at most half of the window, without the entry
itself.  This needs no order of the spans: a search in any table looks at no place twice,
and it looks at no more places than the width of its window can be halved.
-/

namespace TextCoordinates

/-!
## Halves of a window
-/

namespace Window

/-- A window inside of a table with so many entries. -/
structure IsInside (window : Window) (count : Nat) : Prop where
  low_le_high : window.low ≤ window.high
  high_le : window.high ≤ count

section

variable {window : Window}

theorem low_le_middle (window : Window) : window.low ≤ window.middle :=
  Nat.le_add_right window.low (window.width / 2)

theorem middle_inside (h : window.low < window.high) :
    window.low ≤ window.middle ∧ window.middle < window.high :=
  ⟨low_le_middle window, middle_lt_high h⟩

theorem width_below (window : Window) : window.below.width = window.width / 2 :=
  Nat.add_sub_cancel_left window.low (window.width / 2)

theorem width_above_le (window : Window) : window.above.width ≤ window.width / 2 := by
  simp only [above, middle, width]
  lia

/-- A power of two that bounds an open window can be halved with it. -/
theorem half_width_lt {halvings : Nat} (hlt : window.low < window.high)
    (hwidth : window.width < 2 ^ halvings) :
    ∃ rest, halvings = rest + 1 ∧ window.width / 2 < 2 ^ rest := by
  cases halvings with
  | zero =>
      rw [width, Nat.pow_zero] at hwidth
      lia
  | succ rest =>
      refine ⟨rest, rfl, Nat.div_lt_of_lt_mul ?_⟩
      rwa [Nat.pow_succ, Nat.mul_comm] at hwidth

/-- A look that goes on leaves a window inside of the table, and at most half of it. -/
theorem IsInside.of_narrowed {lines : Array Line} {position : Int} {rest : Window} {count : Nat}
    (h : window.IsInside count)
    (hnarrowed : Probe.ofWindow lines position window = .narrowed rest) :
    rest.IsInside count ∧ rest.width ≤ window.width / 2 := by
  have hlt := Probe.low_lt_high_of_narrowed hnarrowed
  have hmiddle := middle_inside hlt
  rcases Probe.ofWindow_eq_narrowed hnarrowed with ⟨line, _hline, hbelow | habove⟩
  · rw [hbelow.right]
    exact ⟨⟨hmiddle.left, Nat.le_trans (Nat.le_of_lt hmiddle.right) h.high_le⟩,
      Nat.le_of_eq (width_below window)⟩
  · rw [habove.right]
    exact ⟨⟨hmiddle.right, h.high_le⟩, width_above_le window⟩

end

end Window

/-!
## The looks of a search
-/

namespace LineMap

section

variable {lines : List Line} {position : Int} {window : Window} {looks : List Nat}
  {outcome : Option Line}

theorem Course.mem_window (h : Course lines position window looks outcome) :
    ∀ place ∈ looks, window.low ≤ place ∧ place < window.high := by
  induction h with
  | exhausted hempty =>
      exact List.forall_mem_nil _
  | found hlt hentry hmem =>
      exact List.forall_mem_singleton.mpr (Window.middle_inside hlt)
  | lower hlt hentry hbefore hrest ih =>
      refine List.forall_mem_cons.mpr ⟨Window.middle_inside hlt, ?_⟩
      intro place hplace
      rcases ih place hplace with ⟨hlow, hhigh⟩
      exact ⟨hlow, Nat.lt_trans hhigh (Window.middle_lt_high hlt)⟩
  | @upper window line looks outcome hlt hentry hafter hrest ih =>
      refine List.forall_mem_cons.mpr ⟨Window.middle_inside hlt, ?_⟩
      intro place hplace
      rcases ih place hplace with ⟨hlow, hhigh⟩
      exact ⟨Nat.le_trans (Nat.le_succ_of_le (Window.low_le_middle window)) hlow, hhigh⟩

/-- The middle of a window is in neither of its halves. -/
theorem Course.nodup (h : Course lines position window looks outcome) : looks.Nodup := by
  induction h with
  | exhausted hempty =>
      exact List.nodup_nil
  | found hlt hentry hmem =>
      exact List.nodup_singleton _
  | lower hlt hentry hbefore hrest ih =>
      refine List.nodup_cons.mpr ⟨?_, ih⟩
      intro hagain
      exact Nat.lt_irrefl _ (hrest.mem_window _ hagain).right
  | upper hlt hentry hafter hrest ih =>
      refine List.nodup_cons.mpr ⟨?_, ih⟩
      intro hagain
      exact Nat.not_succ_le_self _ (hrest.mem_window _ hagain).left

/-- A search in a window narrower than a power of two takes no more looks than its exponent. -/
theorem Course.length_le (h : Course lines position window looks outcome) {halvings : Nat}
    (hwidth : window.width < 2 ^ halvings) : looks.length ≤ halvings := by
  induction h generalizing halvings with
  | exhausted hempty =>
      exact Nat.zero_le halvings
  | found hlt hentry hmem =>
      rcases Window.half_width_lt hlt hwidth with ⟨rest, rfl, _hhalf⟩
      exact Nat.succ_le_succ (Nat.zero_le rest)
  | @lower window line looks outcome hlt hentry hbefore hrest ih =>
      rcases Window.half_width_lt hlt hwidth with ⟨rest, rfl, hhalf⟩
      rw [← Window.width_below] at hhalf
      exact Nat.succ_le_succ (ih hhalf)
  | @upper window line looks outcome hlt hentry hafter hrest ih =>
      rcases Window.half_width_lt hlt hwidth with ⟨rest, rfl, hhalf⟩
      have habove := Nat.lt_of_le_of_lt (Window.width_above_le window) hhalf
      exact Nat.succ_le_succ (ih habove)

theorem Course.length_le_log2 (h : Course lines position window looks outcome) :
    looks.length ≤ Nat.log2 window.width + 1 :=
  h.length_le Nat.lt_log2_self

end

end LineMap
end TextCoordinates
