import Mathlib.Data.List.Basic
import TextCoordinates.Excerpt
import TextCoordinates.Proofs.LineMap.Correspondence
import TextCoordinates.Proofs.LineMap.Table

/-!
# Written positions

A position is written as the number of its line and its column, with a colon between
them.  A number holds no colon, so the written form is taken apart in one way only.  On
a numbered tiling the two numbers lead back to the position, counted from zero or from
one.
-/

namespace TextCoordinates

/-!
## Two numbers around a colon
-/

namespace Location

open Text.Decimal (ofNat toNat?)

theorem colon_notMem_ofNat (n : Nat) : ':' ∉ ofNat n :=
  Text.Decimal.notMem_ofNat rfl n

theorem count_colon (number column : Nat) :
    (ofNat number ++ ':' :: ofNat column).count ':' = 1 := by
  rw [List.count_append, List.count_cons_self, List.count_eq_zero.mpr (colon_notMem_ofNat number),
    List.count_eq_zero.mpr (colon_notMem_ofNat column)]

theorem sides_of_colon {number column : Nat} {left right : Text}
    (h : ofNat number ++ ':' :: ofNat column = left ++ ':' :: right) :
    toNat? left = some number ∧ toNat? right = some column := by
  have hsides := (List.append_cons_inj_of_notMem (colon_notMem_ofNat number)
    (colon_notMem_ofNat column)).mp h
  rw [← hsides.left, ← hsides.right.right]
  exact ⟨Text.Decimal.toNat?_ofNat number, Text.Decimal.toNat?_ofNat column⟩

theorem Numbering.first_nonneg (numbering : Numbering) : 0 ≤ numbering.first := by
  cases numbering with
  | fromZero =>
      exact Int.le_refl 0
  | fromOne =>
      exact Int.one_nonneg

/-- A location without negative numbers is written with digits and one colon. -/
theorem exists_format_eq {location : Location} (hnumber : 0 ≤ location.number)
    (hcolumn : 0 ≤ location.column) (numbering : Numbering) :
    ∃ number column : Nat,
      (number : Int) = location.number + numbering.first ∧
      (column : Int) = location.column + numbering.first ∧
      location.format numbering = ofNat number ++ ':' :: ofNat column := by
  have hfirst := numbering.first_nonneg
  obtain ⟨number, hn⟩ := Int.eq_ofNat_of_zero_le (Int.add_nonneg hnumber hfirst)
  obtain ⟨column, hc⟩ := Int.eq_ofNat_of_zero_le (Int.add_nonneg hcolumn hfirst)
  refine ⟨number, column, hn.symm, hc.symm, ?_⟩
  rw [format, hn, hc, List.append_assoc]
  rfl

end Location

/-!
## Leading back
-/

namespace LineMap

open Text.Decimal (toNat?)

/-- Left and right are the decimal numbers of an entry and of a column in it, and this
column stands at the position. -/
def LeadsBack (map : LineMap) (numbering : Location.Numbering) (left right : Text)
    (position : Int) : Prop :=
  ∃ number column : Nat, toNat? left = some number ∧ toNat? right = some column ∧
    0 ≤ (number : Int) - numbering.first ∧ (number : Int) - numbering.first < map.count ∧
    ∃ line, map.line (number - numbering.first) = .ok line ∧
      line.span.start + (column - numbering.first) = position

theorem LeadsBack.unique {map : LineMap} {numbering : Location.Numbering} {left right : Text}
    {p q : Int} (hp : map.LeadsBack numbering left right p)
    (hq : map.LeadsBack numbering left right q) : p = q := by
  rcases hp with ⟨number, column, hnumber, hcolumn, _, _, line, hline, hposition⟩
  rcases hq with ⟨number', column', hnumber', hcolumn', _, _, line', hline', hposition'⟩
  rw [hnumber] at hnumber'
  rw [hcolumn] at hcolumn'
  cases hnumber'
  cases hcolumn'
  rw [hline] at hline'
  cases hline'
  exact hposition.symm.trans hposition'

/-- The written form of a location leads back to where the location is, if its line is the
entry of its number. -/
theorem leadsBack_of_line_eq_ok {map : LineMap} {location : Location}
    (hline : map.line location.number = .ok location.line) (hcolumn : 0 ≤ location.column)
    (numbering : Location.Numbering) :
    (location.format numbering).count ':' = 1 ∧
      ∀ left right, location.format numbering = left ++ ':' :: right →
        map.LeadsBack numbering left right location.absolute := by
  rcases line_eq_ok_iff.mp hline with ⟨hnumber, hentry⟩
  have hcount := lt_count_of_getElem? hentry
  rcases Location.exists_format_eq hnumber hcolumn numbering with ⟨number, column, hn, hc, hformat⟩
  have hshown : (number : Int) - numbering.first = location.number := by
    rw [hn, Int.add_sub_cancel]
  have hoffset : (column : Int) - numbering.first = location.offset := by
    rw [hc, Int.add_sub_cancel, Location.column]
  rw [hformat]
  refine ⟨Location.count_colon number column, ?_⟩
  intro left right hsplit
  rcases Location.sides_of_colon hsplit with ⟨hleft, hright⟩
  refine ⟨number, column, hleft, hright, ?_⟩
  rw [hshown, hoffset]
  exact ⟨hnumber, by lia, location.line, hline, rfl⟩

theorem exists_formatPosition_of_isTiling {map : LineMap} (h : IsTiling map.toList)
    (numbering : Location.Numbering) {position : Int} (hlow : 0 ≤ position)
    (hhigh : position ≤ map.size) :
    ∃ text, map.formatPosition position numbering = .ok text ∧ text.count ':' = 1 ∧
      ∀ left right, text = left ++ ':' :: right →
        map.LeadsBack numbering left right position := by
  rcases exists_location_of_isTiling h hlow hhigh with
    ⟨location, hlocate, habsolute, hline, hinside, hend⟩
  have hcolumn : 0 ≤ location.column := by
    rcases Int.lt_or_eq_of_le hhigh with hlt | heq
    · exact (hinside hlt).left
    · rw [hend heq]
      exact Int.natCast_nonneg map.last.span.length
  rcases leadsBack_of_line_eq_ok hline hcolumn numbering with ⟨hcount, hback⟩
  rw [habsolute] at hback
  refine ⟨location.format numbering, ?_, hcount, hback⟩
  rw [formatPosition, hlocate]
  rfl

/-- A written position can be read back, so no two positions are written alike. -/
theorem formatPosition_readable {map : LineMap} (h : IsTiling map.toList)
    (numbering : Location.Numbering) :
    (∀ position : Int, 0 ≤ position → position ≤ map.size →
      ∃ text, map.formatPosition position numbering = .ok text ∧ text.count ':' = 1 ∧
        ∀ left right, text = left ++ ':' :: right →
          map.LeadsBack numbering left right position) ∧
    (∀ p q : Int, 0 ≤ p → p ≤ map.size → 0 ≤ q → q ≤ map.size → p ≠ q →
      map.formatPosition p numbering ≠ map.formatPosition q numbering) := by
  constructor
  · intro position hlow hhigh
    exact exists_formatPosition_of_isTiling h numbering hlow hhigh
  · intro p q hp hp' hq hq' hne heq
    rcases exists_formatPosition_of_isTiling h numbering hp hp' with
      ⟨text, htext, hcount, hback⟩
    rcases exists_formatPosition_of_isTiling h numbering hq hq' with
      ⟨other, hother, _hcount, hback'⟩
    rw [heq, hother] at htext
    cases htext
    have hcolon : ':' ∈ text := List.count_pos_iff.mp (by lia)
    rcases List.append_of_mem hcolon with ⟨left, right, hsplit⟩
    exact hne ((hback left right hsplit).unique (hback' left right hsplit))

theorem formatPosition_readable_empty_row :
    let map := ofText "a\n\nb\n"
    IsTiling map.toList ∧ (0 : Int) ≤ 2 ∧ (2 : Int) ≤ map.size ∧
      map.formatPosition 2 .fromOne = .ok "2:1" ∧ map.LeadsBack .fromOne "2" "1" 2 ∧
      map.formatPosition 2 .fromOne ≠ map.formatPosition 5 .fromOne := by
  intro map
  have htiling : IsTiling map.toList := isTiling_ofText "a\n\nb\n"
  have hsize : map.size = 5 := size_ofText "a\n\nb\n"
  have hhost : map.Hosts 2 1 ⟨1, .joining 2 3⟩ := hosts_of_mem_span rfl (by decide)
  have htext : map.formatPosition 2 .fromOne = .ok "2:1" := by
    rw [formatPosition, locate_eq_of_hosts htiling.tiles (by decide) (by lia) hhost]
    rfl
  rcases formatPosition_readable htiling .fromOne with ⟨hback, hdistinct⟩
  refine ⟨htiling, by decide, by lia, htext, ?_, ?_⟩
  · rcases hback 2 (by decide) (by lia) with ⟨text, hformat, _hcount, hsides⟩
    rw [htext] at hformat
    cases hformat
    exact hsides "2" "1" rfl
  · exact hdistinct 2 5 (by decide) (by lia) (by decide) (by lia) (by decide)

end LineMap
end TextCoordinates
