import TextCoordinates.Proofs.LineMap.Tiling

/-!
# Positions and locations

On a numbered tiling a lookup can be undone, and every pair of a line and an offset
inside of it is the location of one position.  Later positions have later locations.
-/

namespace TextCoordinates

namespace Location

/-- The order of reading: by line number, and by offset inside of one line. -/
def Precedes (location other : Location) : Prop :=
  location.number < other.number ∨
    location.number = other.number ∧ location.offset < other.offset

instance (location other : Location) : Decidable (location.Precedes other) :=
  inferInstanceAs (Decidable (_ ∨ _))

end Location

namespace LineMap

/-!
## Hosts

An entry hosts a position if its span holds the position, or if it is the last entry
and the position is the end of the table.  A tiling has one host for every position,
and hosts are in the order of their positions.
-/

structure Hosts (map : LineMap) (position : Int) (place : Nat) (line : Line) : Prop where
  entry : map.toList[place]? = some line
  start_le : (line.span.start : Int) ≤ position
  le_stop : position ≤ line.span.stop
  inside : position < line.span.stop ∨ place + 1 = map.count ∧ position = map.size

theorem Hosts.place_lt_count {map : LineMap} {position : Int} {place : Nat} {line : Line}
    (h : map.Hosts position place line) : place < map.count :=
  lt_count_of_getElem? h.entry

theorem hosts_of_mem_span {map : LineMap} {position : Int} {place : Nat} {line : Line}
    (hentry : map.toList[place]? = some line) (hmem : position ∈ line.span) :
    map.Hosts position place line := by
  rcases Span.mem_iff.mp hmem with ⟨hstart, hstop⟩
  exact ⟨hentry, hstart, Int.le_of_lt hstop, Or.inl hstop⟩

theorem hosts_last (map : LineMap) : map.Hosts map.size (map.count - 1) map.last := by
  have hpos : 0 < map.count := map.lines_pos
  have hstart : (map.last.span.start : Int) ≤ map.size := by
    exact Int.ofNat_le.mpr map.last.span.start_le_stop
  refine ⟨getElem?_last map, hstart, Int.le_refl _, Or.inr ⟨?_, rfl⟩⟩
  exact Nat.sub_add_cancel hpos

theorem Hosts.place_le {map : LineMap} {low : Nat} (htiles : Tiles low map.toList)
    {p q : Int} {i j : Nat} {line other : Line} (hp : map.Hosts p i line)
    (hq : map.Hosts q j other) (hle : p ≤ q) : i ≤ j := by
  apply Nat.le_of_not_lt
  intro hlt
  have hmeet := htiles.stop_le_start hq.entry hp.entry hlt
  have hstart := hp.start_le
  have hcount := hp.place_lt_count
  rcases hq.inside with hstop | hend
  · lia
  · lia

theorem Hosts.unique {map : LineMap} {low : Nat} (htiles : Tiles low map.toList)
    {position : Int} {i j : Nat} {line other : Line} (h : map.Hosts position i line)
    (hother : map.Hosts position j other) : line = other := by
  have hle := h.place_le htiles hother (Int.le_refl position)
  have hge := hother.place_le htiles h (Int.le_refl position)
  have hentry := h.entry
  rw [Nat.le_antisymm hle hge, hother.entry] at hentry
  cases hentry
  rfl

theorem last_offset {map : LineMap} :
    (map.last.span.length : Int) = map.size - map.last.span.start := by
  have hle := map.last.span.start_le_stop
  show ((map.last.span.stop - map.last.span.start : Nat) : Int) =
    map.last.span.stop - map.last.span.start
  lia

/-- A lookup on a tiling answers with the host of the position. -/
theorem exists_hosts_of_tiles {map : LineMap} (htiles : Tiles 0 map.toList)
    {position : Int} (hlow : 0 ≤ position) (hhigh : position ≤ map.size) :
    ∃ place line, map.Hosts position place line ∧
      map.locate position = .ok ⟨line, position - line.span.start⟩ := by
  rw [locate_of_mem_range hlow hhigh]
  rcases resolve_of_inOrder htiles.inOrder position with
    ⟨line, hline, hmem, hresolve⟩ | ⟨hnone, hresolve⟩
  · rcases List.mem_iff_getElem?.mp hline with ⟨place, hentry⟩
    exact ⟨place, line, hosts_of_mem_span hentry hmem, congrArg Except.ok hresolve⟩
  · have hend : position = map.size := by
      apply Int.le_antisymm hhigh
      apply Int.not_lt.mp
      intro hlt
      rcases htiles.exists_mem_span (getLast?_toList map) hlow hlt with ⟨line, hline, hmem⟩
      exact hnone line hline hmem
    refine ⟨map.count - 1, map.last, ?_, ?_⟩
    · rw [hend]
      exact hosts_last map
    · rw [hresolve, lastEnd, hend, last_offset]

theorem locate_eq_of_hosts {map : LineMap} (htiles : Tiles 0 map.toList)
    {position : Int} (hlow : 0 ≤ position) (hhigh : position ≤ map.size)
    {place : Nat} {line : Line} (h : map.Hosts position place line) :
    map.locate position = .ok ⟨line, position - line.span.start⟩ := by
  rcases exists_hosts_of_tiles htiles hlow hhigh with ⟨_i, found, hfound, hlocate⟩
  rw [hlocate, h.unique htiles hfound]

/-!
## Correspondence

The number of a host is its place, so the host can be read off the location.
-/

theorem Hosts.number_eq {map : LineMap} (hnumbered : Numbered 0 map.toList)
    {position : Int} {place : Nat} {line : Line} (h : map.Hosts position place line) :
    line.number = place := by
  simpa using hnumbered place line h.entry

theorem Hosts.line_number {map : LineMap} (hnumbered : Numbered 0 map.toList)
    {position : Int} {place : Nat} {line : Line} (h : map.Hosts position place line) :
    map.line line.number = .ok line := by
  rw [h.number_eq hnumbered]
  exact line_of_getElem? h.entry

theorem Tiles.stop_le_size {map : LineMap} {low : Nat} (h : Tiles low map.toList)
    {line : Line} (hline : line ∈ map.toList) : line.span.stop ≤ map.size := by
  rcases List.mem_iff_getElem?.mp hline with ⟨place, hentry⟩
  have hlt := lt_count_of_getElem? hentry
  exact h.inOrder.stop_le hentry (getElem?_last map) (Nat.le_sub_one_of_lt hlt)

theorem exists_location_of_isTiling {map : LineMap} (h : IsTiling map.toList)
    {position : Int} (hlow : 0 ≤ position) (hhigh : position ≤ map.size) :
    ∃ location, map.locate position = .ok location ∧
      location.absolute = position ∧
      map.line location.number = .ok location.line ∧
      (position < map.size →
        0 ≤ location.offset ∧ location.offset < location.line.span.length) ∧
      (position = map.size → location = map.lastEnd) := by
  rcases exists_hosts_of_tiles h.tiles hlow hhigh with ⟨place, line, hhost, hlocate⟩
  refine ⟨_, hlocate, ?_, hhost.line_number h.numbered, ?_, ?_⟩
  · show (line.span.start : Int) + (position - line.span.start) = position
    lia
  · intro hlt
    have hstart := hhost.start_le
    have hstop : position < line.span.stop := by
      rcases hhost.inside with hstop | hend
      · exact hstop
      · exact absurd hend.right (Int.ne_of_lt hlt)
    show 0 ≤ position - line.span.start ∧
      position - line.span.start < ((line.span.stop - line.span.start : Nat) : Int)
    lia
  · intro hend
    subst hend
    rw [hhost.unique h.tiles (hosts_last map), lastEnd, last_offset]

theorem locate_start_add_of_isTiling {map : LineMap} (h : IsTiling map.toList)
    {number offset : Int} {line : Line} (hline : map.line number = .ok line)
    (hlow : 0 ≤ offset) (hhigh : offset < line.span.length) :
    line.number = number ∧
      map.locate (line.span.start + offset) = .ok ⟨line, offset⟩ := by
  rcases line_eq_ok_iff.mp hline with ⟨hnonneg, hentry⟩
  have hmem : (line.span.start : Int) + offset ∈ line.span := by
    rw [Span.mem_iff]
    rw [Span.length] at hhigh
    lia
  have hhost := hosts_of_mem_span hentry hmem
  have hsize : line.span.start + offset ≤ map.size := by
    have hstop := h.tiles.stop_le_size (List.mem_of_getElem? hentry)
    have hinside := hhost.le_stop
    lia
  constructor
  · rw [hhost.number_eq h.numbered]
    exact Int.toNat_of_nonneg hnonneg
  · have hoffset : (line.span.start : Int) + offset - line.span.start = offset := by
      lia
    rw [locate_eq_of_hosts h.tiles (by lia) hsize hhost, hoffset]

theorem precedes_of_lt {map : LineMap} (h : IsTiling map.toList) {p q : Int}
    (hlow : 0 ≤ p) (hlt : p < q) (hhigh : q ≤ map.size) :
    ∃ location other, map.locate p = .ok location ∧ map.locate q = .ok other ∧
      location.Precedes other := by
  rcases exists_hosts_of_tiles h.tiles hlow (by lia) with ⟨i, line, hp, hlocate⟩
  rcases exists_hosts_of_tiles h.tiles (by lia) hhigh with ⟨j, other, hq, hlocate'⟩
  refine ⟨_, _, hlocate, hlocate', ?_⟩
  have hle := hp.place_le h.tiles hq (Int.le_of_lt hlt)
  have hnumber := hp.number_eq h.numbered
  have hnumber' := hq.number_eq h.numbered
  rcases Nat.lt_or_eq_of_le hle with hbefore | hsame
  · apply Or.inl
    show line.number < other.number
    lia
  · subst hsame
    have hentry := hp.entry
    rw [hq.entry] at hentry
    cases hentry
    apply Or.inr
    refine ⟨rfl, ?_⟩
    show p - line.span.start < q - line.span.start
    lia

/-- Positions from zero to the size and the locations of a tiling correspond one to
one and in order. -/
theorem locate_of_isTiling {map : LineMap} (h : IsTiling map.toList) :
    (∀ position : Int, 0 ≤ position → position ≤ map.size →
      ∃ location, map.locate position = .ok location ∧
        location.absolute = position ∧
        map.line location.number = .ok location.line ∧
        (position < map.size →
          0 ≤ location.offset ∧ location.offset < location.line.span.length) ∧
        (position = map.size → location = ⟨map.last, map.last.span.length⟩)) ∧
    (∀ (number offset : Int) (line : Line), map.line number = .ok line →
      0 ≤ offset → offset < line.span.length →
        line.number = number ∧
          map.locate (line.span.start + offset) = .ok ⟨line, offset⟩) ∧
    (∀ p q : Int, 0 ≤ p → p < q → q ≤ map.size →
      ∃ location other, map.locate p = .ok location ∧ map.locate q = .ok other ∧
        location.Precedes other) := by
  refine ⟨?_, ?_, ?_⟩
  · intro position hlow hhigh
    exact exists_location_of_isTiling h hlow hhigh
  · intro number offset line hline hlow hhigh
    exact locate_start_add_of_isTiling h hline hlow hhigh
  · intro p q hlow hlt hhigh
    exact precedes_of_lt h hlow hlt hhigh

theorem locate_of_isTiling_empty_lines :
    let map : LineMap :=
      ⟨#[⟨0, .point 0⟩, ⟨1, .joining 0 3⟩, ⟨2, .point 3⟩, ⟨3, .joining 3 7⟩, ⟨4, .point 7⟩],
        by decide⟩
    IsTiling map.toList ∧ map.size = 7 ∧
      (∃ location, map.locate 2 = .ok location ∧ location.absolute = 2 ∧
        map.line location.number = .ok location.line) ∧
      map.locate 7 = .ok ⟨⟨4, .point 7⟩, 0⟩ ∧
      map.locate 3 = .ok ⟨⟨3, .joining 3 7⟩, 0⟩ ∧
      ∃ location other, map.locate 2 = .ok location ∧ map.locate 3 = .ok other ∧
        location.Precedes other := by
  intro map
  have htiling : IsTiling map.toList := by
    decide
  rcases locate_of_isTiling htiling with ⟨hposition, hlocation, horder⟩
  refine ⟨htiling, rfl, ?_, ?_, ?_, ?_⟩
  · rcases hposition 2 (by decide) (by decide) with ⟨location, hlocate, habsolute, hline, _⟩
    exact ⟨location, hlocate, habsolute, hline⟩
  · rcases hposition 7 (by decide) (by decide) with ⟨location, hlocate, _, _, _, hend⟩
    rw [hlocate, hend rfl]
    rfl
  · exact (hlocation 3 0 ⟨3, .joining 3 7⟩ rfl (by decide) (by decide)).right
  · exact horder 2 3 (by decide) (by decide) (by decide)

end LineMap
end TextCoordinates
