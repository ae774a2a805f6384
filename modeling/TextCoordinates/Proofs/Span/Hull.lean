import Mathlib.Order.Bounds.Basic
import TextCoordinates.Proofs.Span.Checked

/-!
# Hulls

One span is below another if it starts no earlier and stops no later.  The hull of two spans
is their least upper bound in this order, so many spans have one hull, in whatever order and
grouping they are covered and however often.  The order looks at bounds only: an empty span
has no offsets and still moves the bounds of a hull.
-/

namespace TextCoordinates
namespace Span

instance : SemilatticeSup Span where
  sup := hull
  le a b := b.start ≤ a.start ∧ a.stop ≤ b.stop
  le_refl a := ⟨Nat.le_refl a.start, Nat.le_refl a.stop⟩
  le_trans _ _ _ hab hbc := ⟨hbc.left.trans hab.left, hab.right.trans hbc.right⟩
  le_antisymm _ _ hab hba :=
    eq_of_bounds (Nat.le_antisymm hba.left hab.left) (Nat.le_antisymm hab.right hba.right)
  le_sup_left _ _ := ⟨Nat.min_le_left _ _, Nat.le_max_left _ _⟩
  le_sup_right _ _ := ⟨Nat.min_le_right _ _, Nat.le_max_right _ _⟩
  sup_le _ _ _ hac hbc :=
    ⟨Nat.le_min.mpr ⟨hac.left, hbc.left⟩, Nat.max_le.mpr ⟨hac.right, hbc.right⟩⟩

theorem le_iff {a b : Span} : a ≤ b ↔ b.start ≤ a.start ∧ a.stop ≤ b.stop :=
  Iff.rfl

theorem le_hull_left (a b : Span) : a ≤ a.hull b :=
  le_sup_left

theorem le_hull_right (a b : Span) : b ≤ a.hull b :=
  le_sup_right

theorem mem_of_le {a b : Span} (h : a ≤ b) {offset : Int} (hmem : offset ∈ a) : offset ∈ b := by
  rcases le_iff.mp h with ⟨hstart, hstop⟩
  rcases mem_iff.mp hmem with ⟨hlow, hhigh⟩
  exact mem_iff.mpr ⟨by lia, by lia⟩

/-!
## The hull of many spans
-/

/-- The span reaches from the smallest start of all to the largest stop. -/
structure Covers (cover : Span) (spans : List Span) : Prop where
  start_isLeast : IsLeast (start '' {span | span ∈ spans}) cover.start
  stop_isGreatest : IsGreatest (stop '' {span | span ∈ spans}) cover.stop

theorem covers_singleton (span : Span) : span.Covers [span] := by
  have hsingle : {other | other ∈ [span]} = ({span} : Set Span) := by
    ext other
    exact List.mem_singleton
  constructor
  · rw [hsingle, Set.image_singleton]
    exact isLeast_singleton
  · rw [hsingle, Set.image_singleton]
    exact isGreatest_singleton

theorem Covers.append {a b : Span} {front back : List Span} (ha : a.Covers front)
    (hb : b.Covers back) : (a.hull b).Covers (front ++ back) := by
  have hunion : {span | span ∈ front ++ back} = {span | span ∈ front} ∪ {span | span ∈ back} := by
    ext span
    exact List.mem_append
  constructor
  · rw [hunion, Set.image_union]
    exact ha.start_isLeast.union hb.start_isLeast
  · rw [hunion, Set.image_union]
    exact ha.stop_isGreatest.union hb.stop_isGreatest

theorem Covers.congr {cover : Span} {spans others : List Span} (h : cover.Covers spans)
    (hmem : ∀ span, span ∈ spans ↔ span ∈ others) : cover.Covers others := by
  have hset : {span | span ∈ spans} = {span | span ∈ others} := Set.ext hmem
  constructor
  · rw [← hset]
    exact h.start_isLeast
  · rw [← hset]
    exact h.stop_isGreatest

theorem Covers.unique {a b : Span} {spans : List Span} (ha : a.Covers spans)
    (hb : b.Covers spans) : a = b :=
  eq_of_bounds (ha.start_isLeast.unique hb.start_isLeast)
    (ha.stop_isGreatest.unique hb.stop_isGreatest)

theorem exists_covers {spans : List Span} (h : spans ≠ []) :
    ∃ cover : Span, cover.Covers spans := by
  induction spans with
  | nil =>
      exact absurd rfl h
  | cons span rest ih =>
      cases rest with
      | nil =>
          exact ⟨span, covers_singleton span⟩
      | cons next rest =>
          rcases ih (List.cons_ne_nil next rest) with ⟨cover, hcover⟩
          exact ⟨span.hull cover, (covers_singleton span).append hcover⟩

/-!
## Covering in some order and grouping
-/

/-- Spans covered two at a time, where the second one may be missing. -/
inductive Grouping where
  | single (span : Span)
  | alone (inner : Grouping)
  | pair (left right : Grouping)

namespace Grouping

/-- The spans from left to right, each as often as it takes part. -/
def spans : Grouping → List Span
  | single span => [span]
  | alone inner => inner.spans
  | pair left right => left.spans ++ right.spans

def cover : Grouping → Except Violation Span
  | single span => .ok span
  | alone inner => do
      let span ← inner.cover
      span.extendByBounds none
  | pair left right => do
      let a ← left.cover
      let b ← right.cover
      a.extendByBounds (some b)

theorem exists_cover_eq_ok (grouping : Grouping) :
    ∃ cover : Span, grouping.cover = .ok cover ∧ cover.Covers grouping.spans := by
  induction grouping with
  | single span =>
      exact ⟨span, rfl, covers_singleton span⟩
  | alone inner ih =>
      rcases ih with ⟨cover, hcover, hcovers⟩
      refine ⟨cover, ?_, hcovers⟩
      rw [Grouping.cover, hcover]
      rfl
  | pair left right ihleft ihright =>
      rcases ihleft with ⟨a, ha, hacovers⟩
      rcases ihright with ⟨b, hb, hbcovers⟩
      refine ⟨a.hull b, ?_, hacovers.append hbcovers⟩
      rw [Grouping.cover, ha, hb]
      exact extendByBounds_eq_ok a (some b)

/-- Only the spans that take part matter. -/
theorem cover_eq_ok_of_covers {grouping : Grouping} {spans : List Span} {cover : Span}
    (hmem : ∀ span, span ∈ grouping.spans ↔ span ∈ spans) (hcover : cover.Covers spans) :
    grouping.cover = .ok cover := by
  rcases grouping.exists_cover_eq_ok with ⟨other, hother, hcovers⟩
  rw [hother, (hcovers.congr hmem).unique hcover]

end Grouping

/-- The hull is a least upper bound, so covering many spans does not depend on the order or
the grouping. -/
theorem hull_of_any_grouping :
    (∀ (a : Span) (other : Option Span), a.extendByBounds other = .ok (a.extend other)) ∧
    (∀ a b : Span, a.extend none = a ∧ a.extend (some b) = a.hull b) ∧
    (∀ a b : Span, a.hull b = b.hull a) ∧
    (∀ a b c : Span, (a.hull b).hull c = a.hull (b.hull c)) ∧
    (∀ a : Span, a.hull a = a) ∧
    (∀ a b : Span, (a.hull b).start ≤ a.start ∧ (a.hull b).start ≤ b.start ∧
      a.stop ≤ (a.hull b).stop ∧ b.stop ≤ (a.hull b).stop) ∧
    (∀ a b c : Span, c.start ≤ a.start → c.start ≤ b.start → a.stop ≤ c.stop →
      b.stop ≤ c.stop → c.start ≤ (a.hull b).start ∧ (a.hull b).stop ≤ c.stop) ∧
    (∀ (a b : Span) (offset : Int), offset ∈ a ∨ offset ∈ b → offset ∈ a.hull b) ∧
    (∀ spans : List Span, spans ≠ [] → ∃ cover : Span, cover.Covers spans ∧
      ∀ grouping : Grouping, (∀ span, span ∈ grouping.spans ↔ span ∈ spans) →
        grouping.cover = .ok cover) := by
  refine ⟨extendByBounds_eq_ok, fun a b => ⟨rfl, rfl⟩, hull_comm, sup_assoc, sup_idem, ?_, ?_, ?_,
    ?_⟩
  · intro a b
    rcases le_iff.mp (le_hull_left a b) with ⟨hastart, hastop⟩
    rcases le_iff.mp (le_hull_right a b) with ⟨hbstart, hbstop⟩
    exact ⟨hastart, hbstart, hastop, hbstop⟩
  · intro a b c hastart hbstart hastop hbstop
    exact sup_le (le_iff.mpr ⟨hastart, hastop⟩) (le_iff.mpr ⟨hbstart, hbstop⟩)
  · intro a b offset hmem
    rcases hmem with ha | hb
    · exact mem_of_le (le_hull_left a b) ha
    · exact mem_of_le (le_hull_right a b) hb
  · intro spans hne
    rcases exists_covers hne with ⟨cover, hcover⟩
    exact ⟨cover, hcover, fun grouping hmem => Grouping.cover_eq_ok_of_covers hmem hcover⟩

theorem hull_of_any_grouping_repeated :
    let a : Span := .joining 2 7
    let b : Span := .point 9
    let c : Span := .joining 0 1
    let outer : Span := .joining 0 20
    let grouping : Grouping :=
      .pair (.pair (.single c) (.alone (.single b))) (.alone (.pair (.single a) (.single c)))
    outer.start ≤ a.start ∧ outer.start ≤ b.start ∧ a.stop ≤ outer.stop ∧ b.stop ≤ outer.stop ∧
      outer.start ≤ (a.hull b).start ∧ (a.hull b).stop ≤ outer.stop ∧
      (6 : Int) ∈ a ∧ (6 : Int) ∈ a.hull b ∧
      (∀ span, span ∈ grouping.spans ↔ span ∈ [a, b, c]) ∧
      ∃ cover : Span, cover.Covers [a, b, c] ∧ grouping.cover = .ok cover := by
  intro a b c outer grouping
  rcases hull_of_any_grouping with ⟨_, _, _, _, _, _, hleast, hmem, hmany⟩
  have hspans : ∀ span, span ∈ grouping.spans ↔ span ∈ [a, b, c] := by
    intro span
    show span ∈ [c, b, a, c] ↔ span ∈ [a, b, c]
    simp only [List.mem_cons, List.not_mem_nil]
    tauto
  have houter : outer.start ≤ a.start ∧ outer.start ≤ b.start ∧ a.stop ≤ outer.stop ∧
      b.stop ≤ outer.stop := by
    decide
  rcases houter with ⟨hastart, hbstart, hastop, hbstop⟩
  rcases hleast a b outer hastart hbstart hastop hbstop with ⟨hstart, hstop⟩
  have hsix : (6 : Int) ∈ a := by
    decide
  rcases hmany [a, b, c] (List.cons_ne_nil _ _) with ⟨cover, hcover, hgroupings⟩
  exact ⟨hastart, hbstart, hastop, hbstop, hstart, hstop, hsix,
    hmem a b 6 (Or.inl hsix), hspans, cover, hcover, hgroupings grouping hspans⟩

end Span
end TextCoordinates
