import TextCoordinates.LineMap.Lookup

/-!
# What a search finds

One look at the table ends in one of three ways, and each says what stands at the
middle of the window.  From these the whole search is described on every table,
whether its spans are in order or not.
-/

namespace TextCoordinates

/-!
## Outcomes of one look
-/

namespace Probe

theorem ofWindow_eq_found {lines : Array Line} {position : Int} {window : Window}
    {line : Line} (h : ofWindow lines position window = found line) :
    lines[window.middle]? = some line ∧ position ∈ line.span := by
  unfold ofWindow at h
  split at h
  · split at h
    · rename_i entry hentry
      unfold ofLine at h
      split at h
      · rename_i hmem
        cases h
        exact ⟨hentry, hmem⟩
      · split at h
        · cases h
        · cases h
    · cases h
  · cases h

/-- A window is narrowed past the entry at its middle, away from the position. -/
theorem ofWindow_eq_narrowed {lines : Array Line} {position : Int} {window rest : Window}
    (h : ofWindow lines position window = narrowed rest) :
    ∃ line, lines[window.middle]? = some line ∧
      (position < line.span.start ∧ rest = window.below ∨
        (line.span.stop : Int) ≤ position ∧ rest = window.above) := by
  have hlt := low_lt_high_of_narrowed h
  unfold ofWindow at h
  rw [if_pos hlt] at h
  split at h
  · rename_i line hline
    refine ⟨line, hline, ?_⟩
    unfold ofLine at h
    split at h
    · cases h
    · rename_i hmem
      split at h
      · rename_i hbefore
        cases h
        exact Or.inl ⟨hbefore, rfl⟩
      · rename_i hbefore
        cases h
        have hafter : (line.span.stop : Int) ≤ position := by
          rw [Span.mem_iff] at hmem
          lia
        exact Or.inr ⟨hafter, rfl⟩
  · cases h

theorem ofWindow_eq_missed {lines : Array Line} {position : Int} {window : Window}
    (hhigh : window.high ≤ lines.size) (h : ofWindow lines position window = missed) :
    window.high ≤ window.low := by
  apply Nat.le_of_not_lt
  intro hlt
  have hmiddle : window.middle < lines.size := by
    exact Nat.lt_of_lt_of_le (Window.middle_lt_high hlt) hhigh
  unfold ofWindow at h
  rw [if_pos hlt, Array.getElem?_eq_getElem hmiddle] at h
  simp only [ofLine] at h
  split at h
  · cases h
  · split at h
    · cases h
    · cases h

end Probe

namespace Window

theorem high_le_of_narrowed {lines : Array Line} {position : Int} {window rest : Window}
    (h : Probe.ofWindow lines position window = .narrowed rest) :
    rest.high ≤ window.high := by
  have hmiddle := middle_lt_high (Probe.low_lt_high_of_narrowed h)
  rcases Probe.ofWindow_eq_narrowed h with ⟨line, _hline, hbelow | habove⟩
  · rw [hbelow.right]
    exact Nat.le_of_lt hmiddle
  · rw [habove.right]
    exact Nat.le_refl window.high

end Window

/-!
## The whole search
-/

namespace LineMap

/-- On every table, a line that is found is an entry and holds the position. -/
theorem mem_of_search_eq_some {lines : Array Line} {position : Int} {window : Window}
    {line : Line} (h : search lines position window = some line) :
    line ∈ lines.toList ∧ position ∈ line.span := by
  fun_induction search lines position window with
  | case1 window entry hfound =>
      cases h
      rcases Probe.ofWindow_eq_found hfound with ⟨hentry, hmem⟩
      exact ⟨Array.mem_toList_iff.mpr (Array.mem_of_getElem? hentry), hmem⟩
  | case2 window hmissed =>
      cases h
  | case3 window rest hnarrowed ih =>
      exact ih h

end LineMap
end TextCoordinates
