/-!
# Arithmetic progressions

A progression counts from a start towards a stop in equal steps, and leaves out
the stop.  A negative step counts down.  A step of zero goes nowhere, so that
progression is empty.
-/

namespace TextCoordinates

structure Progression where
  start : Int
  stop : Int
  step : Int
deriving DecidableEq

namespace Progression

/-- The number of terms, which is the distance divided by the step, rounded up. -/
def length (p : Progression) : Nat :=
  if 0 < p.step then
    ((p.stop - p.start + p.step - 1) / p.step).toNat
  else if p.step < 0 then
    ((p.start - p.stop - p.step - 1) / -p.step).toNat
  else
    0

def term (p : Progression) (i : Nat) : Int :=
  p.start + p.step * i

def toList (p : Progression) : List Int :=
  (List.range p.length).map p.term

@[simp] theorem length_toList (p : Progression) : p.toList.length = p.length := by
  simp [toList]

theorem mem_toList {p : Progression} {t : Int} :
    t ∈ p.toList ↔ ∃ i < p.length, p.term i = t := by
  simp [toList]

theorem length_up {p : Progression} (h : 0 < p.step) :
    p.length = ((p.stop - p.start + p.step - 1) / p.step).toNat := by
  simp [length, h]

theorem length_down {p : Progression} (h : p.step < 0) :
    p.length = ((p.start - p.stop - p.step - 1) / -p.step).toNat := by
  have hnot : ¬ 0 < p.step := by omega
  simp [length, h, hnot]

/-!
## Going through the terms

A progression may have more terms than anyone would list.  Going through it looks
at one term after the other and stops at the first failure.
-/

def traverseFrom (f : Int → Except ε α) (step : Int) : Nat → Int → Except ε (List α)
  | 0, _ => .ok []
  | count + 1, term =>
      match f term with
      | .error failure => .error failure
      | .ok first => (traverseFrom f step count (term + step)).map (first :: ·)

def traverse (p : Progression) (f : Int → Except ε α) : Except ε (List α) :=
  traverseFrom f p.step p.length p.start

theorem traverseFrom_eq_mapM (f : Int → Except ε α) (step : Int) (count : Nat) (term : Int) :
    traverseFrom f step count term =
      ((List.range count).map fun (i : Nat) => term + step * i).mapM f := by
  induction count generalizing term with
  | zero =>
      rfl
  | succ count ih =>
      have hshift : (fun i : Nat => term + step + step * (i : Int)) =
          (fun i : Nat => term + step * (i : Int)) ∘ Nat.succ := by
        funext i
        simp only [Function.comp, Nat.succ_eq_add_one, Int.natCast_add, Int.mul_add]
        omega
      rw [List.range_succ_eq_map, List.map_cons, List.map_map, List.mapM_cons, ← hshift,
        ← ih (term + step)]
      simp only [traverseFrom, Int.natCast_zero, Int.mul_zero, Int.add_zero]
      cases f term with
      | error failure =>
          rfl
      | ok first =>
          cases traverseFrom f step count (term + step) <;> rfl

theorem traverse_eq_mapM (p : Progression) (f : Int → Except ε α) :
    p.traverse f = p.toList.mapM f := by
  exact traverseFrom_eq_mapM f p.step p.length p.start

end Progression
end TextCoordinates
