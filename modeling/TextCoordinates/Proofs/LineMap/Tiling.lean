import TextCoordinates.Proofs.LineMap.InOrder

/-!
# Tilings

A table tiles the offsets from some first one on if its first span starts there and
every span ends where the next one starts.  Empty spans may stand anywhere.  On a
tiling that is numbered by place, positions and locations correspond one to one and
in the same order.
-/

namespace TextCoordinates
namespace LineMap

/-- The entries are numbered by their places, from a first number on. -/
def Numbered (first : Nat) (lines : List Line) : Prop :=
  ∀ (i : Nat) (line : Line), lines[i]? = some line → line.number = first + i

structure Tiles (low : Nat) (lines : List Line) : Prop where
  starts : ∀ line : Line, lines[0]? = some line → line.span.start = low
  meets : ∀ (i : Nat) (line next : Line), lines[i]? = some line →
    lines[i + 1]? = some next → line.span.stop = next.span.start

/-- A numbered tiling of all offsets from zero on. -/
structure IsTiling (lines : List Line) : Prop where
  numbered : Numbered 0 lines
  tiles : Tiles 0 lines

@[simp] theorem numbered_nil (first : Nat) : Numbered first [] := by
  intro i line hline
  cases hline

@[simp] theorem numbered_cons {first : Nat} {line : Line} {rest : List Line} :
    Numbered first (line :: rest) ↔ line.number = first ∧ Numbered (first + 1) rest := by
  constructor
  · intro h
    constructor
    · simpa using h 0 line rfl
    · intro i next hnext
      have hnumber := h (i + 1) next hnext
      lia
  · intro h i next hnext
    cases i with
    | zero =>
        cases hnext
        simpa using h.left
    | succ i =>
        have hnumber := h.right i next hnext
        lia

@[simp] theorem tiles_nil (low : Nat) : Tiles low [] := by
  constructor
  · intro line hline
    cases hline
  · intro i line next hline
    cases hline

@[simp] theorem tiles_cons {low : Nat} {line : Line} {rest : List Line} :
    Tiles low (line :: rest) ↔ line.span.start = low ∧ Tiles line.span.stop rest := by
  constructor
  · intro h
    refine ⟨h.starts line rfl, ?_, ?_⟩
    · intro next hnext
      exact (h.meets 0 line next rfl hnext).symm
    · intro i entry next hentry hnext
      exact h.meets (i + 1) entry next hentry hnext
  · intro h
    rcases h with ⟨hstart, hrest⟩
    constructor
    · intro first hfirst
      cases hfirst
      exact hstart
    · intro i entry next hentry hnext
      cases i with
      | zero =>
          cases hentry
          exact (hrest.starts next hnext).symm
      | succ i =>
          exact hrest.meets i entry next hentry hnext

instance decidableNumbered : (first : Nat) → (lines : List Line) →
    Decidable (Numbered first lines)
  | first, [] => isTrue (numbered_nil first)
  | first, line :: rest =>
      have := decidableNumbered (first + 1) rest
      decidable_of_iff (line.number = first ∧ Numbered (first + 1) rest) numbered_cons.symm

instance decidableTiles : (low : Nat) → (lines : List Line) → Decidable (Tiles low lines)
  | low, [] => isTrue (tiles_nil low)
  | low, line :: rest =>
      have := decidableTiles line.span.stop rest
      decidable_of_iff (line.span.start = low ∧ Tiles line.span.stop rest) tiles_cons.symm

instance (lines : List Line) : Decidable (IsTiling lines) :=
  decidable_of_iff (Numbered 0 lines ∧ Tiles 0 lines)
    ⟨fun h => ⟨h.left, h.right⟩, fun h => ⟨h.numbered, h.tiles⟩⟩

/-!
## Spans of a tiling

Of two entries the earlier one ends before the later one starts, so a tiling is in
order.  No offset between the first start and the last stop is left out.
-/

theorem Tiles.low_le_start {low : Nat} {lines : List Line} (h : Tiles low lines) :
    ∀ line ∈ lines, low ≤ line.span.start := by
  induction lines generalizing low with
  | nil =>
      intro line hline
      cases hline
  | cons first rest ih =>
      rcases tiles_cons.mp h with ⟨hstart, hrest⟩
      intro line hline
      cases hline with
      | head =>
          exact Nat.le_of_eq hstart.symm
      | tail _ hline =>
          have hstop := first.span.start_le_stop
          have hlater := ih hrest line hline
          lia

theorem Tiles.pairwise {low : Nat} {lines : List Line} (h : Tiles low lines) :
    lines.Pairwise fun line next => line.span.stop ≤ next.span.start := by
  induction lines generalizing low with
  | nil =>
      exact List.Pairwise.nil
  | cons first rest ih =>
      rcases tiles_cons.mp h with ⟨_hstart, hrest⟩
      exact List.Pairwise.cons hrest.low_le_start (ih hrest)

theorem Tiles.inOrder {low : Nat} {lines : List Line} (h : Tiles low lines) :
    InOrder lines := by
  constructor
  · apply h.pairwise.imp
    intro line next hmeet
    exact Nat.le_trans line.span.start_le_stop hmeet
  · apply h.pairwise.imp
    intro line next hmeet
    exact Nat.le_trans hmeet next.span.start_le_stop

theorem Tiles.stop_le_start {low : Nat} {lines : List Line} (h : Tiles low lines)
    {i j : Nat} {line next : Line} (hline : lines[i]? = some line)
    (hnext : lines[j]? = some next) (hlt : i < j) :
    line.span.stop ≤ next.span.start :=
  rel_of_pairwise h.pairwise hline hnext hlt

theorem Tiles.exists_mem_span {low : Nat} {lines : List Line} (h : Tiles low lines)
    {last : Line} (hlast : lines.getLast? = some last) {position : Int}
    (hlow : (low : Int) ≤ position) (hhigh : position < last.span.stop) :
    ∃ line ∈ lines, position ∈ line.span := by
  induction lines generalizing low with
  | nil =>
      cases hlast
  | cons first rest ih =>
      rcases tiles_cons.mp h with ⟨hstart, hrest⟩
      by_cases hinside : position < first.span.stop
      · refine ⟨first, List.mem_cons_self, ?_⟩
        rw [Span.mem_iff, hstart]
        exact ⟨hlow, hinside⟩
      · cases rest with
        | nil =>
            cases hlast
            exact absurd hhigh hinside
        | cons second rest =>
            rw [List.getLast?_cons_cons] at hlast
            rcases ih hrest hlast (by lia) with ⟨line, hline, hmem⟩
            exact ⟨line, List.mem_cons_of_mem first hline, hmem⟩

end LineMap
end TextCoordinates
