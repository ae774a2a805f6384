/-!
# Texts

A text is the list of its characters, and every length and offset of the library
counts characters.  Lines end at a line feed and nowhere else: a carriage return
is an ordinary character of its line.
-/

namespace TextCoordinates

abbrev Text := List Char

instance : Coe String Text := ⟨String.toList⟩

namespace Text

def delimiter : Char := '\n'

/-!
## Rows

Rows are pieces of text without their delimiters.  Joining puts one delimiter
between neighbours and none after the last row; blocks are kept apart by an
empty row.
-/

def joinRows (rows : List Text) : Text :=
  List.intercalate [delimiter] rows

def joinBlocks (blocks : List Text) : Text :=
  List.intercalate [delimiter, delimiter] blocks

/-- A final delimiter is taken off; a text without one is kept as it is. -/
def dropDelimiter (row : Text) : Text :=
  if row.getLast? = some delimiter then row.dropLast else row

@[simp] theorem dropDelimiter_append_delimiter (row : Text) :
    dropDelimiter (row ++ [delimiter]) = row := by
  simp [dropDelimiter]

theorem dropDelimiter_of_notMem {row : Text} (h : delimiter ∉ row) :
    dropDelimiter row = row := by
  have hlast : row.getLast? ≠ some delimiter := by
    intro hlast
    exact h (List.mem_of_getLast? hlast)
  simp [dropDelimiter, hlast]

/-!
## Sides of a mark
-/

/-- What stands before the first mark and what follows it are read off a text. -/
theorem sides_of_append_cons {mark : Char} {left right other rest : Text}
    (hleft : mark ∉ left) (hother : mark ∉ other)
    (h : left ++ mark :: right = other ++ mark :: rest) : left = other ∧ right = rest := by
  induction left generalizing other with
  | nil =>
      cases other with
      | nil =>
          exact ⟨rfl, (List.cons.inj h).2⟩
      | cons c other =>
          exact absurd ((List.cons.inj h).1 ▸ List.mem_cons_self) hother
  | cons c left ih =>
      rw [List.mem_cons, not_or] at hleft
      cases other with
      | nil =>
          exact absurd (List.cons.inj h).1.symm hleft.left
      | cons d other =>
          rw [List.mem_cons, not_or] at hother
          rcases List.cons.inj h with ⟨hhead, htail⟩
          rcases ih hleft.right hother.right htail with ⟨hsides, hrest⟩
          exact ⟨by rw [hhead, hsides], hrest⟩

/-- Two marks side by side are told from the rest if there are no others. -/
theorem sides_of_append_pair {mark : Char} {left right other rest : Text}
    (hleft : mark ∉ left) (hright : mark ∉ right)
    (h : left ++ mark :: mark :: right = other ++ mark :: mark :: rest) :
    left = other ∧ right = rest := by
  have hcount := congrArg (List.count mark) h
  simp only [List.count_append, List.count_cons_self, List.count_eq_zero.mpr hleft,
    List.count_eq_zero.mpr hright] at hcount
  have hother : mark ∉ other := List.count_eq_zero.mp (by lia)
  rcases sides_of_append_cons hleft hother h with ⟨hsame, hmarked⟩
  exact ⟨hsame, (List.cons.inj hmarked).right⟩

end Text
end TextCoordinates
