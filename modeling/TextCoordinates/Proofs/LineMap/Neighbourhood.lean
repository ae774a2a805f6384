import Mathlib.Data.List.Sort
import TextCoordinates.Proofs.LineMap.Course
import TextCoordinates.Proofs.LineMap.Excerpt
import TextCoordinates.Proofs.LineMap.RowByRow

/-!
# Excerpts of any table

On a table that is not the map of the text, the number that the found line carries need
not be its place: it may be negative, too large, or the place of another entry.  An
excerpt then shows the entries whose places are near that number, if there are any, and
the marker stands below the entry that the number names, if there is one.
-/

namespace TextCoordinates
namespace LineMap

/-!
## Near places
-/

/-- The places of a table that are at most `context` away from a number. -/
def placesNear (count : Nat) (current context : Int) : List Nat :=
  (List.range count).filter fun place => ((place : Int) - current).natAbs ≤ context

theorem mem_placesNear {count place : Nat} {current context : Int} :
    place ∈ placesNear count current context ↔
      place < count ∧ ((place : Int) - current).natAbs ≤ context := by
  rw [placesNear, List.mem_filter, List.mem_range, decide_eq_true_iff]

theorem pairwise_placesNear (count : Nat) (current context : Int) :
    (placesNear count current context).Pairwise (· < ·) :=
  List.pairwise_lt_range.filter _

theorem exists_placesNear_eq_append {count place : Nat} (h : place < count) {context : Int}
    (hcontext : 0 ≤ context) :
    ∃ above below, placesNear count place context = above ++ place :: below := by
  apply List.append_of_mem
  rw [mem_placesNear]
  lia

/-- A number that is the place of an entry is near itself. -/
theorem no_entry_of_placesNear_eq_nil {count : Nat} {current context : Int}
    (hcontext : 0 ≤ context) (h : placesNear count current context = []) :
    current < 0 ∨ count ≤ current := by
  have hnot : current.toNat ∉ placesNear count current context := by
    rw [h]
    exact List.not_mem_nil
  rw [mem_placesNear] at hnot
  lia

theorem map_snd_nearby (map : LineMap) (current context : Int) :
    (map.nearby current context).map Prod.snd = placesNear map.count current context := by
  have hwindow : (map.nearby current context).map Prod.snd =
      ((List.range map.count).take (current + context + 1).toNat).drop
        (current - context).toNat := by
    rw [nearby, List.map_drop, List.map_take, List.zipIdx_map_snd, length_toList,
      List.range_eq_range']
  rw [hwindow]
  apply List.Pairwise.eq_of_mem_iff (List.pairwise_lt_range.take.drop)
    (pairwise_placesNear map.count current context)
  intro place
  rw [mem_placesNear, List.take_range, List.range_eq_range', List.drop_range',
    List.mem_range'_1]
  lia

/-!
## Rows of near places
-/

section

variable {map : LineMap} {current context : Int} {text : Text}

/-- The text of the entry at a place, without its delimiter. -/
def rowAt (map : LineMap) (text : Text) (place : Nat) : Text :=
  (map.toList[place]?.map (·.content text)).getD []

theorem rowAt_of_getElem? {place : Nat} {line : Line} (h : map.toList[place]? = some line)
    (text : Text) : map.rowAt text place = line.content text := by
  rw [rowAt, h]
  rfl

theorem lineText_of_lt_count {place : Nat} (h : place < map.count) (text : Text) :
    map.lineText text place false = .ok (map.rowAt text place) := by
  rw [← length_toList] at h
  have hentry := List.getElem?_eq_getElem h
  rw [lineText_of_getElem? hentry, rowAt_of_getElem? hentry]
  rfl

/-- Near entries away from the current row are shown without a marker. -/
theorem flatMap_nearby_of_ne {entries : List (Line × Nat)} {marked : Text}
    (hnear : ∀ entry ∈ entries, entry ∈ map.nearby current context)
    (hne : ∀ entry ∈ entries, (entry.2 : Int) ≠ current) :
    (entries.flatMap fun (line, place) =>
      if place = current then [line.content text, marked] else [line.content text]) =
      (entries.map Prod.snd).map (map.rowAt text) := by
  rw [flatMap_of_ne hne, List.map_map, List.map_map]
  apply List.map_congr_left
  intro entry hentry
  exact (rowAt_of_getElem? (getElem?_of_mem_nearby (hnear entry hentry)) text).symm

theorem excerptRows_of_no_entry {found : Location}
    (h : found.number < 0 ∨ map.count ≤ found.number) (context : Int) (marker : Text) :
    map.excerptRows text found context marker =
      (placesNear map.count found.number context).map (map.rowAt text) := by
  have hne : ∀ entry ∈ map.nearby found.number context, (entry.2 : Int) ≠ found.number := by
    intro entry hentry
    have hlt := lt_count_of_getElem? (getElem?_of_mem_nearby hentry)
    lia
  rw [excerptRows, flatMap_nearby_of_ne (fun _ hentry => hentry) hne, map_snd_nearby]

theorem excerptRows_of_entry {found : Location} {place : Nat} (hnumber : found.number = place)
    {above below : List Nat}
    (hsplit : placesNear map.count found.number context = above ++ place :: below)
    (marker : Text) :
    map.excerptRows text found context marker =
      above.map (map.rowAt text) ++
        map.rowAt text place :: markerRow found.column marker ::
          below.map (map.rowAt text) := by
  have horder := pairwise_placesNear map.count found.number context
  rw [hsplit, List.pairwise_append, List.pairwise_cons] at horder
  rcases horder with ⟨_, ⟨hafter, _⟩, hbefore⟩
  have hplaces := map_snd_nearby map found.number context
  rw [hsplit] at hplaces
  rcases List.map_eq_append_iff.mp hplaces with ⟨front, rest, hentries, habove, hrest⟩
  rcases List.map_eq_cons_iff.mp hrest with ⟨⟨line, number⟩, back, hcons, hplace, hbelow⟩
  subst habove hcons hbelow hplace
  have hnear : ∀ entry ∈ front ++ (line, number) :: back,
      entry ∈ map.nearby found.number context := by
    rw [hentries]
    exact fun _ hentry => hentry
  rw [List.forall_mem_append, List.forall_mem_cons] at hnear
  rcases hnear with ⟨hfront, hline, hback⟩
  have hfrontNe : ∀ entry ∈ front, (entry.2 : Int) ≠ found.number := by
    intro entry hentry
    have hlt := hbefore entry.2 (List.mem_map_of_mem hentry) number List.mem_cons_self
    lia
  have hbackNe : ∀ entry ∈ back, (entry.2 : Int) ≠ found.number := by
    intro entry hentry
    have hlt := hafter entry.2 (List.mem_map_of_mem hentry)
    lia
  rw [excerptRows, hentries, List.flatMap_append, List.flatMap_cons,
    flatMap_nearby_of_ne hfront hfrontNe, flatMap_nearby_of_ne hback hbackNe,
    rowAt_of_getElem? (getElem?_of_mem_nearby hline)]
  simp only [if_pos hnumber.symm]
  rfl

end

/-!
## Whole excerpts
-/

/-- An excerpt from any table fails only for a negative context or a position outside of
the table.  It shows the entries near the number of the found line, and a marker below the
entry that the number names. -/
theorem excerpt_of_any_table (map : LineMap) (text marker : Text) (position context : Int) :
    map.excerptByNumber text position context marker =
      map.excerpt text position context marker ∧
    (context < 0 →
      ∃ violation, map.excerpt text position context marker = .error violation ∧
        violation.diagnostic.code = .contextLinesNegative) ∧
    (0 ≤ context → position < 0 ∨ map.size < position →
      ∃ violation, map.excerpt text position context marker = .error violation ∧
        violation.diagnostic.code = .positionOutOfRange) ∧
    (0 ≤ context → 0 ≤ position → position ≤ map.size →
      ∃ found rowText, map.locate position = .ok found ∧
        (∀ place < map.count, map.lineText text place false = .ok (rowText place)) ∧
        (∀ place : Nat, found.number = place → place < map.count →
          ∃ above below,
            placesNear map.count found.number context = above ++ place :: below ∧
            map.excerpt text position context marker =
              .ok (Text.joinRows (above.map rowText ++
                rowText place :: markerRow found.column marker :: below.map rowText))) ∧
        (found.number < 0 ∨ map.count ≤ found.number →
          map.excerpt text position context marker =
            .ok (Text.joinRows ((placesNear map.count found.number context).map rowText))) ∧
        (placesNear map.count found.number context = [] →
          map.excerpt text position context marker = .ok [])) := by
  refine ⟨map.excerptByNumber_eq_excerpt text position context marker, ?_, ?_, ?_⟩
  · intro hcontext
    exact ⟨_, excerpt_of_negative hcontext map text position marker, rfl⟩
  · intro hcontext hposition
    refine ⟨.position position map.size, ?_, rfl⟩
    rw [excerpt, if_neg (Int.not_lt.mpr hcontext), locate, if_pos hposition]
    rfl
  · intro hcontext hlow hhigh
    have hlocate := locate_of_mem_range hlow hhigh
    have hexcerpt := excerpt_of_locate_eq_ok hcontext hlocate text marker
    refine ⟨map.resolve position, map.rowAt text, hlocate, ?_, ?_, ?_, ?_⟩
    · intro place hplace
      exact lineText_of_lt_count hplace text
    · intro place hnumber hplace
      rcases exists_placesNear_eq_append hplace hcontext with ⟨above, below, hsplit⟩
      rw [← hnumber] at hsplit
      exact ⟨above, below, hsplit, by rw [hexcerpt, excerptRows_of_entry hnumber hsplit]⟩
    · intro hnone
      rw [hexcerpt, excerptRows_of_no_entry hnone]
    · intro hempty
      have hnone := no_entry_of_placesNear_eq_nil hcontext hempty
      rw [hexcerpt, excerptRows_of_no_entry hnone, hempty]
      rfl

/-- The line of one position carries the place of another entry, and the line of the other
position a number that no entry has. -/
theorem excerpt_of_any_table_other_numbers :
    let map : LineMap :=
      ⟨#[⟨2, .joining 0 2⟩, ⟨7, .joining 2 4⟩, ⟨0, .joining 4 5⟩], by decide⟩
    let text : Text := "x\ny\nz"
    (0 : Int) ≤ 1 ∧ (1 : Int) ≤ map.size ∧ (0 : Int) ≤ 3 ∧ (3 : Int) ≤ map.size ∧
      map.excerpt text 1 1 "^" = .ok "y\nz\n ^" ∧ map.excerpt text 3 1 "^" = .ok [] ∧
      (-1 : Int) < 0 ∧
      ∃ violation, map.excerpt text 9 (-1) "^" = .error violation ∧
        violation.diagnostic.code = .contextLinesNegative := by
  intro map text
  have hfull : map.fullWindow = ⟨0, 3⟩ := rfl
  have hfirst : map.locate 1 = .ok ⟨⟨2, .joining 0 2⟩, 1⟩ := by
    have hcourse : Course map.toList 1 ⟨0, 3⟩ [1, 0] (some ⟨2, .joining 0 2⟩) := by
      apply Course.lower (by decide) rfl (by decide)
      exact Course.found (by decide) rfl (by decide)
    rw [locate_of_mem_range (by decide) (by decide),
      resolve_of_search_eq_some (hfull ▸ hcourse.search_eq)]
    rfl
  have hsecond : map.locate 3 = .ok ⟨⟨7, .joining 2 4⟩, 1⟩ := by
    have hcourse : Course map.toList 3 ⟨0, 3⟩ [1] (some ⟨7, .joining 2 4⟩) := by
      exact Course.found (by decide) rfl (by decide)
    rw [locate_of_mem_range (by decide) (by decide),
      resolve_of_search_eq_some (hfull ▸ hcourse.search_eq)]
    rfl
  refine ⟨by decide, by decide, by decide, by decide, ?_, ?_, by decide, ?_⟩
  · rcases (excerpt_of_any_table map text "^" 1 1).2.2.2 (by decide) (by decide) (by decide)
      with ⟨found, rowText, hlocate, hrows, hentry, _⟩
    rw [hfirst] at hlocate
    cases hlocate
    have hy : rowText 1 = "y" := (Except.ok.inj (hrows 1 (by decide))).symm
    have hz : rowText 2 = "z" := (Except.ok.inj (hrows 2 (by decide))).symm
    rcases hentry 2 rfl (by decide) with ⟨above, below, hsplit, hexcerpt⟩
    have hplaces : [1] ++ 2 :: [] = above ++ 2 :: below := hsplit
    rcases (List.append_cons_inj_of_notMem (by decide) (by decide)).mp hplaces with ⟨rfl, _, rfl⟩
    rw [hexcerpt, List.map_singleton, List.map_nil, hy, hz]
    rfl
  · rcases (excerpt_of_any_table map text "^" 3 1).2.2.2 (by decide) (by decide) (by decide)
      with ⟨found, rowText, hlocate, _, _, _, hempty⟩
    rw [hsecond] at hlocate
    cases hlocate
    exact hempty (by decide)
  · exact (excerpt_of_any_table map text "^" 9 (-1)).2.1 (by decide)

end LineMap
end TextCoordinates
