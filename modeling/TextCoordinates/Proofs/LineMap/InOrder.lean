import TextCoordinates.Proofs.LineMap.Search

/-!
# Tables in order

A table is in order if neither the starts nor the stops of its spans decrease.  Its
spans may still overlap, leave gaps or be empty, and its line numbers may be any.
On such a table the search leaves no entry behind that holds the position, so it
answers with an entry whenever there is one to answer with.
-/

namespace TextCoordinates

namespace LineMap

structure InOrder (lines : List Line) : Prop where
  starts : lines.Pairwise fun line next => line.span.start ≤ next.span.start
  stops : lines.Pairwise fun line next => line.span.stop ≤ next.span.stop

instance (lines : List Line) : Decidable (InOrder lines) :=
  decidable_of_iff
    ((lines.Pairwise fun line next => line.span.start ≤ next.span.start) ∧
      lines.Pairwise fun line next => line.span.stop ≤ next.span.stop)
    ⟨fun h => ⟨h.left, h.right⟩, fun h => ⟨h.starts, h.stops⟩⟩

theorem rel_of_pairwise {lines : List Line} {rel : Line → Line → Prop}
    (h : lines.Pairwise rel) {i j : Nat} {line next : Line} (hline : lines[i]? = some line)
    (hnext : lines[j]? = some next) (hlt : i < j) : rel line next := by
  rcases List.getElem?_eq_some_iff.mp hline with ⟨hi, rfl⟩
  rcases List.getElem?_eq_some_iff.mp hnext with ⟨hj, rfl⟩
  exact List.pairwise_iff_getElem.mp h i j hi hj hlt

theorem le_of_pairwise {lines : List Line} {bound : Line → Nat}
    (h : lines.Pairwise fun line next => bound line ≤ bound next)
    {i j : Nat} {line next : Line} (hline : lines[i]? = some line)
    (hnext : lines[j]? = some next) (hle : i ≤ j) :
    bound line ≤ bound next := by
  rcases Nat.lt_or_eq_of_le hle with hlt | heq
  · exact rel_of_pairwise h hline hnext hlt
  · subst heq
    rw [hline] at hnext
    cases hnext
    exact Nat.le_refl _

theorem InOrder.start_le {lines : List Line} (h : InOrder lines)
    {i j : Nat} {line next : Line} (hline : lines[i]? = some line)
    (hnext : lines[j]? = some next) (hle : i ≤ j) :
    line.span.start ≤ next.span.start :=
  le_of_pairwise h.starts hline hnext hle

theorem InOrder.stop_le {lines : List Line} (h : InOrder lines)
    {i j : Nat} {line next : Line} (hline : lines[i]? = some line)
    (hnext : lines[j]? = some next) (hle : i ≤ j) :
    line.span.stop ≤ next.span.stop :=
  le_of_pairwise h.stops hline hnext hle

end LineMap

/-!
## Confinement

A window confines a position if no entry outside of it holds the position.  The
whole table does so, and narrowing keeps it so: below the start of the middle entry
nothing to its right holds the position, and from its stop on nothing to its left.
-/

namespace Window

open LineMap

def Confines (window : Window) (lines : List Line) (position : Int) : Prop :=
  ∀ (i : Nat) (line : Line), lines[i]? = some line → position ∈ line.span →
    window.low ≤ i ∧ i < window.high

theorem confines_below {window : Window} {lines : List Line} {position : Int}
    {middle : Line} (hord : InOrder lines) (hin : window.Confines lines position)
    (hmiddle : lines[window.middle]? = some middle)
    (hbefore : position < middle.span.start) :
    window.below.Confines lines position := by
  intro i line hline hmem
  rcases hin i line hline hmem with ⟨hlow, _hhigh⟩
  refine ⟨hlow, ?_⟩
  show i < window.middle
  apply Nat.lt_of_not_le
  intro hle
  have hstart := hord.start_le hmiddle hline hle
  have hfirst := (Span.mem_iff.mp hmem).left
  lia

theorem confines_above {window : Window} {lines : List Line} {position : Int}
    {middle : Line} (hord : InOrder lines) (hin : window.Confines lines position)
    (hmiddle : lines[window.middle]? = some middle)
    (hafter : (middle.span.stop : Int) ≤ position) :
    window.above.Confines lines position := by
  intro i line hline hmem
  rcases hin i line hline hmem with ⟨_hlow, hhigh⟩
  refine ⟨?_, hhigh⟩
  show window.middle + 1 ≤ i
  apply Nat.lt_of_not_le
  intro hle
  have hstop := hord.stop_le hline hmiddle hle
  have hlast := (Span.mem_iff.mp hmem).right
  lia

theorem confines_of_narrowed {lines : Array Line} {position : Int} {window rest : Window}
    (hord : InOrder lines.toList) (hin : window.Confines lines.toList position)
    (h : Probe.ofWindow lines position window = .narrowed rest) :
    rest.Confines lines.toList position := by
  rcases Probe.ofWindow_eq_narrowed h with ⟨middle, hmiddle, hside⟩
  have hentry : lines.toList[window.middle]? = some middle := by
    rw [Array.getElem?_toList]
    exact hmiddle
  rcases hside with ⟨hbefore, hrest⟩ | ⟨hafter, hrest⟩
  · rw [hrest]
    exact confines_below hord hin hentry hbefore
  · rw [hrest]
    exact confines_above hord hin hentry hafter

end Window

/-!
## Completeness

A search that ends without an entry has an empty window, and an empty window
confines nothing.
-/

namespace LineMap

theorem notMem_span_of_search_eq_none {lines : Array Line} {position : Int} {window : Window}
    (hord : InOrder lines.toList) (hin : window.Confines lines.toList position)
    (hhigh : window.high ≤ lines.size) (h : search lines position window = none) :
    ∀ line ∈ lines.toList, position ∉ line.span := by
  fun_induction search lines position window with
  | case1 window entry hfound =>
      cases h
  | case2 window hmissed =>
      intro line hline hmem
      rcases List.mem_iff_getElem?.mp hline with ⟨i, hi⟩
      have hempty := Probe.ofWindow_eq_missed hhigh hmissed
      have hinside := hin i line hi hmem
      lia
  | case3 window rest hnarrowed ih =>
      have hrest := Window.high_le_of_narrowed hnarrowed
      exact ih (Window.confines_of_narrowed hord hin hnarrowed)
        (Nat.le_trans hrest hhigh) h

theorem confines_fullWindow (map : LineMap) (position : Int) :
    map.fullWindow.Confines map.toList position := by
  intro i line hline _hmem
  exact ⟨Nat.zero_le i, lt_count_of_getElem? hline⟩

/-- Either an entry that holds the position is found, or there is none. -/
theorem resolve_of_inOrder {map : LineMap} (hord : InOrder map.toList) (position : Int) :
    (∃ line ∈ map.toList, position ∈ line.span ∧
        map.resolve position = ⟨line, position - line.span.start⟩) ∨
      (∀ line ∈ map.toList, position ∉ line.span) ∧
        map.resolve position = map.lastEnd := by
  unfold resolve
  cases hsearch : search map.lines position map.fullWindow with
  | some line =>
      rcases mem_of_search_eq_some hsearch with ⟨hline, hmem⟩
      exact Or.inl ⟨line, hline, hmem, rfl⟩
  | none =>
      refine Or.inr ⟨?_, rfl⟩
      exact notMem_span_of_search_eq_none hord (confines_fullWindow map position)
        (Nat.le_refl map.count) hsearch

/-- A lookup answers with an entry that holds the position, or else with the end of
the last line. -/
theorem locate_of_inOrder {lines : List Line} (hne : lines ≠ []) (hord : InOrder lines) :
    ∃ map, ofLines lines = .ok map ∧
      ∀ position : Int, 0 ≤ position → position ≤ map.size →
        ((∃ line ∈ lines, position ∈ line.span) →
          ∃ line ∈ lines, position ∈ line.span ∧
            map.locate position = .ok ⟨line, position - line.span.start⟩) ∧
        (∀ line ∈ lines, position ∈ line.span →
          (∀ other ∈ lines, position ∈ other.span → other = line) →
            map.locate position = .ok ⟨line, position - line.span.start⟩) ∧
        ((∀ line ∈ lines, position ∉ line.span) →
          map.locate position =
            .ok ⟨lines.getLast hne, (lines.getLast hne).span.length⟩) := by
  rcases exists_ofLines_eq_ok hne with ⟨map, hmap⟩
  have hlines : map.toList = lines := ofLines_eq_ok_iff.mp hmap
  subst hlines
  refine ⟨map, hmap, ?_⟩
  intro position hlow hhigh
  rw [locate_of_mem_range hlow hhigh]
  rcases resolve_of_inOrder hord position with
    ⟨found, hfound, hmem, hresolve⟩ | ⟨hnone, hresolve⟩
  · rw [hresolve]
    refine ⟨?_, ?_, ?_⟩
    · intro _hexists
      exact ⟨found, hfound, hmem, rfl⟩
    · intro line _hline _hmem honly
      rw [honly found hfound hmem]
    · intro hnone
      exact absurd hmem (hnone found hfound)
  · rw [hresolve]
    refine ⟨?_, ?_, ?_⟩
    · intro hexists
      rcases hexists with ⟨line, hline, hmem⟩
      exact absurd hmem (hnone line hline)
    · intro line hline hmem _honly
      exact absurd hmem (hnone line hline)
    · intro _hnone
      rw [getLast_toList]
      rfl

theorem locate_of_inOrder_overlap_and_gap :
    let lines : List Line :=
      [⟨7, .joining 0 4⟩, ⟨7, .joining 2 4⟩, ⟨-3, .joining 2 6⟩, ⟨0, .point 6⟩,
        ⟨5, .joining 8 12⟩]
    lines ≠ [] ∧ InOrder lines ∧
      ∃ map, ofLines lines = .ok map ∧
        (∃ line ∈ lines, 3 ∈ line.span ∧ map.locate 3 = .ok ⟨line, 3 - line.span.start⟩) ∧
        map.locate 5 = .ok ⟨⟨-3, .joining 2 6⟩, 3⟩ ∧
        map.locate 7 = .ok ⟨⟨5, .joining 8 12⟩, 4⟩ := by
  intro lines
  have hne : lines ≠ [] := by decide
  have hord : InOrder lines := by decide
  refine ⟨hne, hord, ?_⟩
  rcases locate_of_inOrder hne hord with ⟨map, hmap, hlocate⟩
  have hsize : map.size = 12 := by
    rw [size, ← getLast_toList]
    simp only [ofLines_eq_ok_iff.mp hmap]
    rfl
  refine ⟨map, hmap, ?_, ?_, ?_⟩
  · exact (hlocate 3 (by decide) (by lia)).1 (by decide)
  · exact (hlocate 5 (by decide) (by lia)).2.1 ⟨-3, .joining 2 6⟩
      (by decide) (by decide) (by decide)
  · exact (hlocate 7 (by decide) (by lia)).2.2 (by decide)

end LineMap
end TextCoordinates
