import TextCoordinates.Proofs.LineMap.Correspondence

/-!
# The course of a search

A search may be given any table: its spans may be out of order, overlap or leave gaps,
and its numbers need not say anything about places.  The course of a search is told look
by look, with the places that it looks at.  Every look reads an entry, so a search that
left the table would have no course.  On every table there is a course, and it ends
either at an entry that holds the position or with nothing left to look at.
-/

namespace TextCoordinates

/-!
## What one look decides
-/

namespace Probe

section

variable {position : Int} {line : Line}

theorem ofLine_of_mem (h : position ∈ line.span) (window : Window) :
    ofLine position window line = found line :=
  if_pos h

theorem ofLine_of_lt_start (h : position < line.span.start) (window : Window) :
    ofLine position window line = narrowed window.below := by
  have hmem : position ∉ line.span := by
    rw [Span.mem_iff]
    lia
  rw [ofLine, if_neg hmem, if_pos h]

theorem ofLine_of_stop_le (h : (line.span.stop : Int) ≤ position) (window : Window) :
    ofLine position window line = narrowed window.above := by
  have hmem : position ∉ line.span := by
    rw [Span.mem_iff]
    lia
  have hstart : ¬ position < line.span.start := by
    have hle := line.span.start_le_stop
    lia
  rw [ofLine, if_neg hmem, if_neg hstart]

end

theorem ofWindow_of_entry {lines : Array Line} {window : Window} {line : Line}
    (hlt : window.low < window.high) (hentry : lines.toList[window.middle]? = some line)
    (position : Int) : ofWindow lines position window = ofLine position window line := by
  rw [Array.getElem?_toList] at hentry
  rw [ofWindow, if_pos hlt, hentry]

theorem ofWindow_of_high_le {window : Window} (h : window.high ≤ window.low)
    (lines : Array Line) (position : Int) : ofWindow lines position window = missed :=
  if_neg (Nat.not_lt_of_le h)

end Probe

namespace LineMap

theorem search_eq_match (lines : Array Line) (position : Int) (window : Window) :
    search lines position window =
      match Probe.ofWindow lines position window with
      | .found line => some line
      | .missed => none
      | .narrowed rest => search lines position rest := by
  rw [search]
  split <;> simp_all only

/-!
## Courses
-/

/-- The places that a search looks at, and the entry that it ends at if there is one. -/
inductive Course (lines : List Line) (position : Int) :
    Window → List Nat → Option Line → Prop where
  | exhausted {window : Window} (hempty : window.high ≤ window.low) :
      Course lines position window [] none
  | found {window : Window} {line : Line} (hlt : window.low < window.high)
      (hentry : lines[window.middle]? = some line) (hmem : position ∈ line.span) :
      Course lines position window [window.middle] (some line)
  | lower {window : Window} {line : Line} {looks : List Nat} {outcome : Option Line}
      (hlt : window.low < window.high) (hentry : lines[window.middle]? = some line)
      (hbefore : position < line.span.start)
      (hrest : Course lines position window.below looks outcome) :
      Course lines position window (window.middle :: looks) outcome
  | upper {window : Window} {line : Line} {looks : List Nat} {outcome : Option Line}
      (hlt : window.low < window.high) (hentry : lines[window.middle]? = some line)
      (hafter : (line.span.stop : Int) ≤ position)
      (hrest : Course lines position window.above looks outcome) :
      Course lines position window (window.middle :: looks) outcome

theorem Course.lt_length_of_mem {lines : List Line} {position : Int} {window : Window}
    {looks : List Nat} {outcome : Option Line}
    (h : Course lines position window looks outcome) :
    ∀ place ∈ looks, place < lines.length := by
  induction h with
  | exhausted hempty =>
      exact List.forall_mem_nil _
  | found hlt hentry hmem =>
      exact List.forall_mem_singleton.mpr (List.getElem?_eq_some_iff.mp hentry).1
  | lower hlt hentry hbefore hrest ih =>
      exact List.forall_mem_cons.mpr ⟨(List.getElem?_eq_some_iff.mp hentry).1, ih⟩
  | upper hlt hentry hafter hrest ih =>
      exact List.forall_mem_cons.mpr ⟨(List.getElem?_eq_some_iff.mp hentry).1, ih⟩

/-- Whatever course a search takes, it answers with the outcome of the course. -/
theorem Course.search_eq {lines : Array Line} {position : Int} {window : Window}
    {looks : List Nat} {outcome : Option Line}
    (h : Course lines.toList position window looks outcome) :
    search lines position window = outcome := by
  induction h with
  | exhausted hempty =>
      rw [search_eq_match, Probe.ofWindow_of_high_le hempty]
  | found hlt hentry hmem =>
      rw [search_eq_match, Probe.ofWindow_of_entry hlt hentry, Probe.ofLine_of_mem hmem]
  | lower hlt hentry hbefore hrest ih =>
      rw [search_eq_match, Probe.ofWindow_of_entry hlt hentry,
        Probe.ofLine_of_lt_start hbefore]
      exact ih
  | upper hlt hentry hafter hrest ih =>
      rw [search_eq_match, Probe.ofWindow_of_entry hlt hentry, Probe.ofLine_of_stop_le hafter]
      exact ih

/-- A search in a window inside of the table takes a course. -/
theorem exists_course_search {lines : Array Line} (position : Int) {window : Window}
    (hhigh : window.high ≤ lines.size) :
    ∃ looks, Course lines.toList position window looks (search lines position window) := by
  fun_induction search lines position window with
  | case1 window line hfound =>
      have hlt : window.low < window.high := by
        apply Nat.lt_of_not_le
        intro hle
        rw [Probe.ofWindow_of_high_le hle] at hfound
        cases hfound
      rcases Probe.ofWindow_eq_found hfound with ⟨hentry, hmem⟩
      rw [← Array.getElem?_toList] at hentry
      exact ⟨_, .found hlt hentry hmem⟩
  | case2 window hmissed =>
      exact ⟨_, .exhausted (Probe.ofWindow_eq_missed hhigh hmissed)⟩
  | case3 window rest hnarrowed ih =>
      have hlt := Probe.low_lt_high_of_narrowed hnarrowed
      have hrest := Window.high_le_of_narrowed hnarrowed
      rcases ih (Nat.le_trans hrest hhigh) with ⟨looks, hcourse⟩
      rcases Probe.ofWindow_eq_narrowed hnarrowed with ⟨line, hentry, hside⟩
      rw [← Array.getElem?_toList] at hentry
      rcases hside with ⟨hbefore, hbelow⟩ | ⟨hafter, habove⟩
      · rw [hbelow] at hcourse ⊢
        exact ⟨_, .lower hlt hentry hbefore hcourse⟩
      · rw [habove] at hcourse ⊢
        exact ⟨_, .upper hlt hentry hafter hcourse⟩

/-!
## Where a lookup lands
-/

theorem resolve_of_search_eq_some {map : LineMap} {position : Int} {line : Line}
    (h : search map.lines position map.fullWindow = some line) :
    map.resolve position = ⟨line, position - line.span.start⟩ := by
  rw [resolve, h]

theorem resolve_of_search_eq_none {map : LineMap} {position : Int}
    (h : search map.lines position map.fullWindow = none) :
    map.resolve position = map.lastEnd := by
  rw [resolve, h]

theorem absolute_lastEnd (map : LineMap) : map.lastEnd.absolute = map.size := by
  show (map.last.span.start : Int) + map.last.span.length = map.size
  rw [last_offset]
  lia

theorem offset_of_mem_span {line : Line} {position : Int} (h : position ∈ line.span) :
    0 ≤ position - line.span.start ∧ position - line.span.start ≤ line.span.length := by
  have hlength := line.span.start_add_length
  rw [Span.mem_iff] at h
  lia

/-- A lookup on any table ends, looks at entries only, and lands at the position in an
entry that holds it or at the end of the last line. -/
theorem locate_of_any_table {lines : List Line} (hne : lines ≠ []) :
    ∃ map, ofLines lines = .ok map ∧ map.size = (lines.getLast hne).span.stop ∧
      ∀ position : Int, 0 ≤ position → position ≤ map.size →
        ∃ looks outcome location,
          Course lines position ⟨0, lines.length⟩ looks outcome ∧
          (∀ others other, Course lines position ⟨0, lines.length⟩ others other →
            other = outcome) ∧
          (∀ place ∈ looks, place < lines.length) ∧
          map.locate position = .ok location ∧
          location.line ∈ lines ∧
          0 ≤ location.offset ∧ location.offset ≤ location.line.span.length ∧
          (outcome = some location.line ∧ position ∈ location.line.span ∧
              location.absolute = position ∨
            outcome = none ∧
              location = ⟨lines.getLast hne, (lines.getLast hne).span.length⟩ ∧
              location.absolute = map.size) ∧
          position ≤ location.absolute := by
  rcases exists_ofLines_eq_ok hne with ⟨map, hmap⟩
  have hlines : map.toList = lines := ofLines_eq_ok_iff.mp hmap
  subst hlines
  have hfull : (⟨0, map.toList.length⟩ : Window) = map.fullWindow := by
    rw [length_toList, fullWindow]
  rw [getLast_toList, hfull]
  refine ⟨map, hmap, rfl, ?_⟩
  intro position hlow hhigh
  have hinside : map.fullWindow.high ≤ map.lines.size := Nat.le_refl map.count
  rcases exists_course_search position hinside with ⟨looks, hcourse⟩
  have hunique : ∀ others other, Course map.toList position map.fullWindow others other →
      other = search map.lines position map.fullWindow := by
    intro others other hother
    exact hother.search_eq.symm
  refine ⟨looks, _, map.resolve position, hcourse, hunique, hcourse.lt_length_of_mem,
    locate_of_mem_range hlow hhigh, ?_⟩
  cases hsearch : search map.lines position map.fullWindow with
  | some line =>
      rcases mem_of_search_eq_some hsearch with ⟨hline, hmem⟩
      rcases offset_of_mem_span hmem with ⟨hnonneg, hle⟩
      have habsolute : (map.resolve position).absolute = position := by
        rw [resolve_of_search_eq_some hsearch]
        show (line.span.start : Int) + (position - line.span.start) = position
        lia
      rw [habsolute, resolve_of_search_eq_some hsearch]
      exact ⟨hline, hnonneg, hle, Or.inl ⟨rfl, hmem, rfl⟩, Int.le_refl position⟩
  | none =>
      rw [resolve_of_search_eq_none hsearch, absolute_lastEnd]
      have hlast : map.last ∈ map.toList := List.mem_of_getLast? (getLast?_toList map)
      exact ⟨hlast, Int.natCast_nonneg map.last.span.length, Int.le_refl _,
        Or.inr ⟨rfl, rfl, rfl⟩, hhigh⟩

/-- The first entry holds the position, but the spans are out of order and the search
leaves it behind. -/
theorem locate_of_any_table_out_of_order :
    let lines : List Line := [⟨9, .joining 4 9⟩, ⟨-1, .joining 0 2⟩, ⟨3, .joining 5 6⟩]
    lines ≠ [] ∧ (∃ line ∈ lines, 6 ∈ line.span) ∧
      ∃ map, ofLines lines = .ok map ∧ map.size = 6 ∧
        Course lines 6 ⟨0, 3⟩ [1, 2] none ∧
        map.locate 6 = .ok ⟨⟨3, .joining 5 6⟩, 1⟩ := by
  intro lines
  have hne : lines ≠ [] := by decide
  have hcourse : Course lines 6 ⟨0, 3⟩ [1, 2] none := by
    apply Course.upper (by decide) rfl (by decide)
    apply Course.upper (by decide) rfl (by decide)
    exact Course.exhausted (by decide)
  rcases locate_of_any_table hne with ⟨map, hmap, hsize, hlocate⟩
  have hsix : map.size = 6 := hsize
  refine ⟨hne, by decide, map, hmap, hsix, hcourse, ?_⟩
  rcases hlocate 6 (by decide) (by lia) with
    ⟨looks, outcome, location, _, hunique, _, hlocation, _, _, _, hlanding, _⟩
  have hnone := hunique [1, 2] none hcourse
  rcases hlanding with ⟨hsome, _⟩ | ⟨_, hend, _⟩
  · rw [← hnone] at hsome
    cases hsome
  · rw [hlocation, hend]
    rfl

end LineMap
end TextCoordinates
