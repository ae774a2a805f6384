import TextCoordinates.Proofs.Text.Rows

/-!
# Reading a text up to an offset

The bounds of the row around an offset are found by reading alone: backwards from
the offset to the delimiter before it, and forwards to the delimiter that follows.
An offset in front of a delimiter belongs to the row that the delimiter ends.
-/

namespace TextCoordinates
namespace Text

/-- One past the last delimiter before an offset, or zero if there is none. -/
def rowStart (text : Text) (offset : Nat) : Nat :=
  match (text.take offset).reverse.idxOf? delimiter with
  | some distance => offset - distance
  | none => 0

/-- One past the first delimiter from an offset on, or the end if there is none. -/
def rowStop (text : Text) (offset : Nat) : Nat :=
  match (text.drop offset).idxOf? delimiter with
  | some distance => offset + distance + 1
  | none => text.length

/-- The first delimiter from an offset on, or the end if there is none. -/
def rowEnd (text : Text) (offset : Nat) : Nat :=
  match (text.drop offset).idxOf? delimiter with
  | some distance => offset + distance
  | none => text.length

theorem idxOf?_append_delimiter {row : Text} (h : delimiter ∉ row) (rest : Text) :
    (row ++ delimiter :: rest).idxOf? delimiter = some row.length := by
  induction row with
  | nil =>
      simp [List.idxOf?_cons]
  | cons c row ih =>
      have hrow : delimiter ∉ row := fun hmem => h (List.mem_cons_of_mem c hmem)
      have hbeq : (c == delimiter) = false := by
        rw [beq_eq_false_iff_ne]
        intro heq
        subst heq
        exact h List.mem_cons_self
      rw [List.cons_append, List.idxOf?_cons, hbeq, ih hrow]
      rfl

/-!
## Inside a row

Both readings stop at the ends of the row that they start in.
-/

section

variable {before row after : Text} {offset : Nat}

theorem take_inside (h : offset ≤ row.length) :
    (before ++ (row ++ after)).take (before.length + offset) = before ++ row.take offset := by
  rw [List.take_length_add_append, List.take_append_of_le_length h]

theorem drop_inside (h : offset ≤ row.length) :
    (before ++ (row ++ after)).drop (before.length + offset) = row.drop offset ++ after := by
  rw [List.drop_length_add_append, List.drop_append_of_le_length h]

theorem count_take_inside (hrow : delimiter ∉ row) (h : offset ≤ row.length) :
    ((before ++ (row ++ after)).take (before.length + offset)).count delimiter =
      before.count delimiter := by
  have hnone : (row.take offset).count delimiter = 0 := by
    apply List.count_eq_zero.mpr
    intro hmem
    exact hrow (List.mem_of_mem_take hmem)
  rw [take_inside h, List.count_append, hnone, Nat.add_zero]

theorem rowStart_inside (hbefore : before = [] ∨ ∃ front, before = front ++ [delimiter])
    (hrow : delimiter ∉ row) (h : offset ≤ row.length) :
    rowStart (before ++ (row ++ after)) (before.length + offset) = before.length := by
  have hread : delimiter ∉ (row.take offset).reverse := by
    intro hmem
    exact hrow (List.mem_of_mem_take (List.mem_reverse.mp hmem))
  unfold rowStart
  rw [take_inside h, List.reverse_append]
  rcases hbefore with hnil | ⟨front, hfront⟩
  · subst hnil
    rw [List.reverse_nil, List.append_nil, List.idxOf?_eq_none_iff.mpr hread]
    rfl
  · rw [hfront, List.reverse_append, List.reverse_singleton, List.singleton_append,
      idxOf?_append_delimiter hread, List.length_reverse, List.length_take, Nat.min_eq_left h]
    exact Nat.add_sub_cancel (front ++ [delimiter]).length offset

theorem idxOf?_drop_before_delimiter (hrow : delimiter ∉ row) (h : offset ≤ row.length) :
    ((before ++ (row ++ delimiter :: after)).drop (before.length + offset)).idxOf? delimiter =
      some (row.length - offset) := by
  have hread : delimiter ∉ row.drop offset := by
    intro hmem
    exact hrow (List.mem_of_mem_drop hmem)
  rw [drop_inside h, idxOf?_append_delimiter hread, List.length_drop]

theorem idxOf?_drop_at_end (hrow : delimiter ∉ row) (h : offset ≤ row.length) :
    ((before ++ (row ++ [])).drop (before.length + offset)).idxOf? delimiter = none := by
  rw [drop_inside h, List.append_nil, List.idxOf?_eq_none_iff]
  intro hmem
  exact hrow (List.mem_of_mem_drop hmem)

theorem rowStop_before_delimiter (hrow : delimiter ∉ row) (h : offset ≤ row.length) :
    rowStop (before ++ (row ++ delimiter :: after)) (before.length + offset) =
      before.length + row.length + 1 := by
  unfold rowStop
  rw [idxOf?_drop_before_delimiter hrow h]
  lia

theorem rowStop_at_end (hrow : delimiter ∉ row) (h : offset ≤ row.length) :
    rowStop (before ++ (row ++ [])) (before.length + offset) = before.length + row.length := by
  unfold rowStop
  rw [idxOf?_drop_at_end hrow h, List.append_nil, List.length_append]

theorem rowEnd_before_delimiter (hrow : delimiter ∉ row) (h : offset ≤ row.length) :
    rowEnd (before ++ (row ++ delimiter :: after)) (before.length + offset) =
      before.length + row.length := by
  unfold rowEnd
  rw [idxOf?_drop_before_delimiter hrow h]
  lia

theorem rowEnd_at_end (hrow : delimiter ∉ row) (h : offset ≤ row.length) :
    rowEnd (before ++ (row ++ [])) (before.length + offset) = before.length + row.length := by
  unfold rowEnd
  rw [idxOf?_drop_at_end hrow h, List.append_nil, List.length_append]

end

/-!
## Inside a row of a text
-/

section

variable {text : Text} {front : List Text} {row : Text} {back : List Text} {offset : Nat}

theorem rowStart_of_rows_eq (hrows : rows text = front ++ row :: back)
    (h : offset ≤ row.length) :
    rowStart text ((closeRows front).length + offset) = (closeRows front).length := by
  rw [eq_around_row hrows]
  exact rowStart_inside (closeRows_eq_nil_or_append front) (notMem_row hrows) h

theorem rowStop_of_rows_eq (hrows : rows text = front ++ row :: back)
    (h : offset ≤ row.length) :
    rowStop text ((closeRows front).length + offset) =
      (closeRows front).length + rowExtent row back := by
  have hrow := notMem_row hrows
  rw [eq_around_row hrows]
  cases back with
  | nil =>
      exact rowStop_at_end hrow h
  | cons next back =>
      rw [openRows_cons]
      exact rowStop_before_delimiter hrow h

theorem rowEnd_of_rows_eq (hrows : rows text = front ++ row :: back)
    (h : offset ≤ row.length) :
    rowEnd text ((closeRows front).length + offset) = (closeRows front).length + row.length := by
  have hrow := notMem_row hrows
  rw [eq_around_row hrows]
  cases back with
  | nil =>
      exact rowEnd_at_end hrow h
  | cons next back =>
      rw [openRows_cons]
      exact rowEnd_before_delimiter hrow h

/-- A text split at the end of a row. -/
theorem take_rowEnd (hrows : rows text = front ++ row :: back) (h : offset ≤ row.length) :
    text.take (rowEnd text ((closeRows front).length + offset)) = closeRows front ++ row := by
  rw [rowEnd_of_rows_eq hrows h, eq_around_row hrows, take_inside (Nat.le_refl row.length),
    List.take_length]

theorem drop_rowEnd (hrows : rows text = front ++ row :: back) (h : offset ≤ row.length) :
    text.drop (rowEnd text ((closeRows front).length + offset)) = openRows back := by
  rw [rowEnd_of_rows_eq hrows h, eq_around_row hrows, drop_inside (Nat.le_refl row.length),
    List.drop_length, List.nil_append]

theorem count_take_of_rows_eq (hrows : rows text = front ++ row :: back)
    (h : offset ≤ row.length) :
    (text.take ((closeRows front).length + offset)).count delimiter = front.length := by
  rw [eq_around_row hrows, count_take_inside (notMem_row hrows) h,
    count_closeRows (notMem_front hrows)]

end

/-!
## The character at an offset

An offset inside a row points at a character of the row.  At the end of a row stands its
delimiter, and nothing at all at the end of the last one.
-/

section

variable {text : Text} {front : List Text} {row : Text} {back : List Text} {offset : Nat}

/-- What stands between the start of a row and an offset in it. -/
theorem drop_take_of_rows_eq (hrows : rows text = front ++ row :: back)
    (h : offset ≤ row.length) :
    (text.take ((closeRows front).length + offset)).drop (closeRows front).length =
      row.take offset := by
  rw [eq_around_row hrows, take_inside h, List.drop_left]

theorem getElem?_of_lt_row (hrows : rows text = front ++ row :: back)
    (h : offset < row.length) :
    text[(closeRows front).length + offset]? = row[offset]? := by
  rw [eq_around_row hrows, List.getElem?_append_right (Nat.le_add_right _ _),
    Nat.add_sub_cancel_left, List.getElem?_append_left h]

theorem getElem?_row_end (hrows : rows text = front ++ row :: back) :
    text[(closeRows front).length + row.length]? = (openRows back).head? := by
  rw [eq_around_row hrows, List.getElem?_append_right (Nat.le_add_right _ _),
    Nat.add_sub_cancel_left, List.getElem?_append_right (Nat.le_refl _), Nat.sub_self,
    List.head?_eq_getElem?]

theorem lt_row_of_getElem?_ne (hrows : rows text = front ++ row :: back)
    (h : offset ≤ row.length) {c : Char}
    (hc : text[(closeRows front).length + offset]? = some c) (hne : c ≠ delimiter) :
    offset < row.length := by
  rcases Nat.lt_or_eq_of_le h with hlt | hend
  · exact hlt
  · rw [hend, getElem?_row_end hrows] at hc
    rcases openRows_eq_nil_or_cons back with hnil | ⟨rest, hcons⟩
    · rw [hnil] at hc
      cases hc
    · rw [hcons] at hc
      exact absurd (Option.some.inj hc).symm hne

theorem eq_row_end (hrows : rows text = front ++ row :: back) (h : offset ≤ row.length)
    (hend : (closeRows front).length + offset = text.length ∨
      text[(closeRows front).length + offset]? = some delimiter) :
    offset = row.length := by
  rcases Nat.lt_or_eq_of_le h with hlt | heq
  · have hchar := getElem?_of_lt_row hrows hlt
    rw [List.getElem?_eq_getElem hlt] at hchar
    rcases hend with hlast | hdelimiter
    · rw [hlast, List.getElem?_eq_none (Nat.le_refl _)] at hchar
      cases hchar
    · rw [hdelimiter] at hchar
      exact absurd (Option.some.inj hchar ▸ List.getElem_mem hlt) (notMem_row hrows)
  · exact heq

end

/-!
## The end of a text

A text that grows by one character keeps its last row, or starts a new one behind a
delimiter.
-/

theorem reverse_take_append_singleton (text : Text) (c : Char) :
    ((text ++ [c]).take (text.length + 1)).reverse = c :: text.reverse := by
  rw [List.take_length_add_append, List.take_one, List.reverse_append]
  rfl

theorem rowStart_append_delimiter (text : Text) :
    rowStart (text ++ [delimiter]) (text.length + 1) = text.length + 1 := by
  rw [rowStart, reverse_take_append_singleton, List.idxOf?_cons, if_pos (beq_self_eq_true _)]
  rfl

theorem rowStart_append_of_ne (text : Text) {c : Char} (h : c ≠ delimiter) :
    rowStart (text ++ [c]) (text.length + 1) = rowStart text text.length := by
  have hbeq : ¬ (c == delimiter) = true := by
    rwa [beq_iff_eq]
  rw [rowStart, rowStart, reverse_take_append_singleton, List.idxOf?_cons, if_neg hbeq,
    List.take_length]
  cases text.reverse.idxOf? delimiter with
  | none =>
      rfl
  | some distance =>
      exact Nat.add_sub_add_right text.length 1 distance

end Text
end TextCoordinates
