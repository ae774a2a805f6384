import TextCoordinates.Proofs.Text.Rows

/-!
# Blocks of a text

Blocks stand apart by an empty row, so between two of them there are two delimiters side
by side.  Reading from the front, each such pair ends a block.  Joined blocks are told apart
again if no row of a block behind its first one is empty.
-/

namespace TextCoordinates
namespace Text

/-- The pieces of a text between pairs of delimiters, taken from the front. -/
def blocks : Text → List Text
  | [] => [[]]
  | [c] => [[c]]
  | c :: d :: rest =>
      if c = delimiter ∧ d = delimiter then [] :: blocks rest
      else (blocks (d :: rest)).modifyHead (c :: ·)

theorem blocks_gap (rest : Text) :
    blocks (delimiter :: delimiter :: rest) = [] :: blocks rest := by
  rw [blocks, if_pos ⟨rfl, rfl⟩]

theorem blocks_cons {c : Char} {rest : Text}
    (h : c = delimiter → rest.head? ≠ some delimiter) :
    blocks (c :: rest) = (blocks rest).modifyHead (c :: ·) := by
  cases rest with
  | nil =>
      rfl
  | cons d rest =>
      have hpair : ¬ (c = delimiter ∧ d = delimiter) := by
        rintro ⟨hc, hd⟩
        exact h hc (congrArg some hd)
      rw [blocks, if_neg hpair]

/-!
## Joining
-/

@[simp] theorem joinBlocks_singleton (block : Text) : joinBlocks [block] = block := by
  simp [joinBlocks]

@[simp] theorem joinBlocks_cons_cons (block next : Text) (rest : List Text) :
    joinBlocks (block :: next :: rest) =
      block ++ delimiter :: delimiter :: joinBlocks (next :: rest) := by
  rw [joinBlocks, List.intercalate_cons_cons, List.append_assoc]
  rfl

theorem joinBlocks_append {front back : List Text} (hfront : front ≠ []) (hback : back ≠ []) :
    joinBlocks (front ++ back) =
      joinBlocks front ++ delimiter :: delimiter :: joinBlocks back := by
  rcases List.exists_cons_of_ne_nil hback with ⟨first, back, rfl⟩
  induction front with
  | nil =>
      exact absurd rfl hfront
  | cons block front ih =>
      cases front with
      | nil =>
          simp
      | cons next front =>
          have hrest := ih (List.cons_ne_nil next front)
          rw [List.cons_append] at hrest
          simp [hrest]

theorem blocks_ne_nil (text : Text) : blocks text ≠ [] := by
  fun_induction blocks text with
  | case1 => exact List.cons_ne_nil _ _
  | case2 c => exact List.cons_ne_nil _ _
  | case3 c d rest hpair ih => exact List.cons_ne_nil _ _
  | case4 c d rest hpair ih =>
      rcases List.exists_cons_of_ne_nil ih with ⟨block, later, hblocks⟩
      rw [hblocks]
      exact List.cons_ne_nil _ _

theorem joinBlocks_cons_head (c : Char) (block : Text) (later : List Text) :
    joinBlocks ((c :: block) :: later) = c :: joinBlocks (block :: later) := by
  cases later with
  | nil =>
      simp
  | cons next later =>
      simp

/-- Nothing but the pairs between the blocks is lost. -/
theorem joinBlocks_blocks (text : Text) : joinBlocks (blocks text) = text := by
  fun_induction blocks text with
  | case1 => exact joinBlocks_singleton []
  | case2 c => exact joinBlocks_singleton [c]
  | case3 c d rest hpair ih =>
      rcases List.exists_cons_of_ne_nil (blocks_ne_nil rest) with ⟨block, later, hblocks⟩
      rw [hblocks] at ih ⊢
      simp [ih, hpair]
  | case4 c d rest hpair ih =>
      rcases List.exists_cons_of_ne_nil (blocks_ne_nil (d :: rest)) with
        ⟨block, later, hblocks⟩
      rw [hblocks] at ih ⊢
      rw [List.modifyHead_cons, joinBlocks_cons_head, ih]

/-!
## Telling blocks apart
-/

/-- No row behind the first one is empty: no two delimiters stand side by side, and none
stands at the end. -/
def Dense (piece : Text) : Prop :=
  ∀ row ∈ (rows piece).tail, row ≠ []

theorem dense_of_notMem {piece : Text} (h : delimiter ∉ piece) : Dense piece := by
  intro row hrow
  rw [rows_of_notMem h] at hrow
  cases hrow

theorem Dense.of_cons {c : Char} {piece : Text} (h : Dense (c :: piece)) : Dense piece := by
  intro row hrow
  apply h
  by_cases hc : c = delimiter
  · rw [hc, rows_cons_delimiter]
    exact List.mem_of_mem_tail hrow
  · rcases exists_rows_eq_cons piece with ⟨first, later, hpiece⟩
    rw [hpiece] at hrow
    rw [rows_cons_of_ne hc hpiece]
    exact hrow

theorem Dense.exists_cons {piece : Text} (h : Dense (delimiter :: piece)) :
    ∃ d rest, piece = d :: rest ∧ d ≠ delimiter := by
  rw [Dense, rows_cons_delimiter] at h
  cases piece with
  | nil =>
      rw [rows_of_notMem List.not_mem_nil] at h
      exact absurd rfl (h [] List.mem_cons_self)
  | cons d rest =>
      refine ⟨d, rest, rfl, ?_⟩
      intro hd
      rw [hd, rows_cons_delimiter] at h
      exact absurd rfl (h [] List.mem_cons_self)

/-- A delimiter of a dense piece is not the first one of a pair, whatever follows the piece. -/
theorem Dense.head?_append_ne {c : Char} {piece : Text} (h : Dense (c :: piece)) (rest : Text)
    (hc : c = delimiter) : (piece ++ rest).head? ≠ some delimiter := by
  rw [hc] at h
  rcases h.exists_cons with ⟨d, tail, hpiece, hd⟩
  rw [hpiece]
  exact fun hhead => hd (Option.some.inj hhead)

theorem Dense.blocks_append_gap {piece : Text} (h : Dense piece) (rest : Text) :
    blocks (piece ++ delimiter :: delimiter :: rest) = piece :: blocks rest := by
  induction piece with
  | nil =>
      exact blocks_gap rest
  | cons c piece ih =>
      rw [List.cons_append, blocks_cons (h.head?_append_ne _), ih h.of_cons]
      rfl

theorem Dense.blocks_eq {piece : Text} (h : Dense piece) : blocks piece = [piece] := by
  induction piece with
  | nil =>
      rfl
  | cons c piece ih =>
      have hnext := h.head?_append_ne []
      rw [List.append_nil] at hnext
      rw [blocks_cons hnext, ih h.of_cons]
      rfl

theorem blocks_joinBlocks {pieces : List Text} (hne : pieces ≠ [])
    (h : ∀ piece ∈ pieces, Dense piece) : blocks (joinBlocks pieces) = pieces := by
  induction pieces with
  | nil =>
      exact absurd rfl hne
  | cons piece pieces ih =>
      have hpiece := h piece List.mem_cons_self
      have hpieces := fun other hother => h other (List.mem_cons_of_mem piece hother)
      cases pieces with
      | nil =>
          simp [hpiece.blocks_eq]
      | cons next pieces =>
          simp [hpiece.blocks_append_gap, ih (List.cons_ne_nil next pieces) hpieces]

end Text
end TextCoordinates
