import TextCoordinates.Text.Basic

/-!
# Rows of a text

The rows of a text are its pieces between delimiters, so a text has one row more
than it has delimiters.  Joining the rows gives the text back.
-/

namespace TextCoordinates
namespace Text

def rows (text : Text) : List Text :=
  text.splitOn delimiter

theorem rows_of_notMem {row : Text} (h : delimiter ∉ row) : rows row = [row] :=
  List.splitOn_eq_singleton h

theorem rows_append_delimiter {row : Text} (h : delimiter ∉ row) (rest : Text) :
    rows (row ++ delimiter :: rest) = row :: rows rest :=
  List.splitOn_append_cons_self_of_not_mem h rest

theorem rows_ne_nil (text : Text) : rows text ≠ [] :=
  List.splitOn_ne_nil delimiter text

theorem joinRows_rows (text : Text) : joinRows (rows text) = text :=
  List.intercalate_splitOn delimiter

/-- Joined rows are told apart again if none of them holds a delimiter. -/
theorem rows_joinRows {pieces : List Text} (hne : pieces ≠ [])
    (h : ∀ piece ∈ pieces, delimiter ∉ piece) : rows (joinRows pieces) = pieces :=
  List.splitOn_intercalate delimiter h hne

/-!
## Reading character by character

A delimiter at the front of a text leaves an empty row behind; any other character
joins the first row of the rest.
-/

theorem rows_cons_delimiter (rest : Text) : rows (delimiter :: rest) = [] :: rows rest := by
  simp [rows, List.splitOn_cons_eq_if_modifyHead]

theorem rows_cons_of_ne {c : Char} (h : c ≠ delimiter) {rest : Text} {row : Text}
    {later : List Text} (hrest : rows rest = row :: later) :
    rows (c :: rest) = (c :: row) :: later := by
  unfold rows at hrest ⊢
  rw [List.splitOn_cons_eq_if_modifyHead, hrest]
  simp [h]

theorem exists_rows_eq_cons (text : Text) : ∃ row later, rows text = row :: later :=
  List.exists_cons_of_ne_nil (rows_ne_nil text)

theorem notMem_of_mem_rows {text row : Text} (h : row ∈ rows text) : delimiter ∉ row := by
  induction text generalizing row with
  | nil =>
      rw [rows_of_notMem List.not_mem_nil] at h
      cases h with
      | head =>
          exact List.not_mem_nil
      | tail _ h =>
          cases h
  | cons c rest ih =>
      by_cases hc : c = delimiter
      · subst hc
        rw [rows_cons_delimiter] at h
        cases h with
        | head =>
            exact List.not_mem_nil
        | tail _ h =>
            exact ih h
      · rcases exists_rows_eq_cons rest with ⟨first, later, hrest⟩
        rw [rows_cons_of_ne hc hrest] at h
        rw [hrest] at ih
        cases h with
        | head =>
            intro hmem
            rcases List.mem_cons.mp hmem with heq | hmem
            · exact hc heq.symm
            · exact ih List.mem_cons_self hmem
        | tail _ h =>
            exact ih (List.mem_cons_of_mem first h)

theorem length_rows (text : Text) : (rows text).length = text.count delimiter + 1 := by
  induction text with
  | nil =>
      rw [rows_of_notMem List.not_mem_nil]
      rfl
  | cons c rest ih =>
      by_cases hc : c = delimiter
      · subst hc
        rw [rows_cons_delimiter, List.length_cons, ih, List.count_cons_self]
      · rcases exists_rows_eq_cons rest with ⟨first, later, hrest⟩
        rw [hrest] at ih
        rw [rows_cons_of_ne hc hrest, List.count_cons_of_ne hc, ← ih]
        rfl

/-!
## Around one row

The text before a row is made of closed rows, each with its delimiter after it; the
text behind a row is made of opened rows, each with its delimiter before it.
-/

/-- The length of a row with the delimiter that ends it, if other rows follow. -/
def rowExtent (row : Text) : List Text → Nat
  | [] => row.length
  | _ :: _ => row.length + 1

theorem rowExtent_of_ne_nil (row : Text) {later : List Text} (h : later ≠ []) :
    rowExtent row later = row.length + 1 := by
  cases later with
  | nil =>
      exact absurd rfl h
  | cons next later =>
      rfl

def closeRows (rows : List Text) : Text :=
  rows.flatMap (· ++ [delimiter])

def openRows (rows : List Text) : Text :=
  rows.flatMap (delimiter :: ·)

@[simp] theorem closeRows_cons (row : Text) (rest : List Text) :
    closeRows (row :: rest) = row ++ delimiter :: closeRows rest := by
  simp [closeRows]

@[simp] theorem openRows_cons (row : Text) (rest : List Text) :
    openRows (row :: rest) = delimiter :: row ++ openRows rest := by
  simp [openRows]

@[simp] theorem joinRows_cons_cons (row next : Text) (rest : List Text) :
    joinRows (row :: next :: rest) = row ++ delimiter :: joinRows (next :: rest) := by
  simp [joinRows]

theorem joinRows_cons (row : Text) (later : List Text) :
    joinRows (row :: later) = row ++ openRows later := by
  induction later generalizing row with
  | nil =>
      simp [joinRows, openRows]
  | cons next rest ih =>
      simp [ih]

theorem joinRows_append_cons (front : List Text) (row : Text) (back : List Text) :
    joinRows (front ++ row :: back) = closeRows front ++ (row ++ openRows back) := by
  induction front with
  | nil =>
      exact joinRows_cons row back
  | cons first front ih =>
      have hne : front ++ row :: back ≠ [] := by
        simp
      rcases List.exists_cons_of_ne_nil hne with ⟨next, rest, hrest⟩
      rw [List.cons_append, hrest, joinRows_cons_cons, ← hrest, ih]
      simp

theorem joinRows_append_cons_cons (front : List Text) (row next : Text) (back : List Text) :
    joinRows (front ++ row :: next :: back) =
      closeRows front ++ row ++ delimiter :: (next ++ openRows back) := by
  simp [joinRows_append_cons]

/-- With fewer rows around one row, a piece of the text is left. -/
theorem joinRows_infix_of_around {inner front : List Text} {row : Text}
    {near back : List Text} (hfront : inner <:+ front) (hback : near <+: back) :
    joinRows (inner ++ row :: near) <:+: joinRows (front ++ row :: back) := by
  rcases hfront with ⟨outer, rfl⟩
  rcases hback with ⟨far, rfl⟩
  refine ⟨closeRows outer, openRows far, ?_⟩
  rw [joinRows_append_cons, joinRows_append_cons]
  simp only [closeRows, openRows, List.flatMap_append, List.append_assoc]

theorem closeRows_eq_nil_or_append (rows : List Text) :
    closeRows rows = [] ∨ ∃ front, closeRows rows = front ++ [delimiter] := by
  induction rows with
  | nil =>
      exact Or.inl rfl
  | cons row rest ih =>
      apply Or.inr
      rw [closeRows_cons]
      rcases ih with hnil | ⟨front, hfront⟩
      · rw [hnil]
        exact ⟨row, rfl⟩
      · rw [hfront]
        exact ⟨row ++ delimiter :: front, by simp⟩

theorem openRows_eq_nil_or_cons (rows : List Text) :
    openRows rows = [] ∨ ∃ rest, openRows rows = delimiter :: rest := by
  cases rows with
  | nil =>
      exact Or.inl rfl
  | cons row rest =>
      exact Or.inr ⟨row ++ openRows rest, openRows_cons row rest⟩

theorem count_closeRows {rows : List Text} (h : ∀ row ∈ rows, delimiter ∉ row) :
    (closeRows rows).count delimiter = rows.length := by
  induction rows with
  | nil =>
      rfl
  | cons row rest ih =>
      have hrow : row.count delimiter = 0 := List.count_eq_zero.mpr (h row List.mem_cons_self)
      have hrest := ih fun other hother => h other (List.mem_cons_of_mem row hother)
      simp [hrow, hrest]

section

variable {text : Text} {front : List Text} {row : Text} {back : List Text}

theorem notMem_row (h : rows text = front ++ row :: back) : delimiter ∉ row := by
  apply notMem_of_mem_rows
  rw [h]
  exact List.mem_append_right front List.mem_cons_self

theorem notMem_front (h : rows text = front ++ row :: back) :
    ∀ piece ∈ front, delimiter ∉ piece := by
  intro piece hpiece
  apply notMem_of_mem_rows
  rw [h]
  exact List.mem_append_left (row :: back) hpiece

theorem eq_around_row (h : rows text = front ++ row :: back) :
    text = closeRows front ++ (row ++ openRows back) := by
  rw [← joinRows_append_cons, ← h, joinRows_rows]

theorem getElem?_rows (h : rows text = front ++ row :: back) :
    (rows text)[front.length]? = some row := by
  rw [h, List.getElem?_append_right (Nat.le_refl _), Nat.sub_self]
  rfl

end

/-!
## Texts put together

The last row of a text goes on with the first row of the text behind it; all other
rows stay as they are.
-/

theorem exists_rows_eq_concat (text : Text) : ∃ front row, rows text = front ++ [row] :=
  ⟨_, _, (List.dropLast_concat_getLast (rows_ne_nil text)).symm⟩

theorem rows_closeRows_append {front : List Text} (h : ∀ row ∈ front, delimiter ∉ row)
    (rest : Text) : rows (closeRows front ++ rest) = front ++ rows rest := by
  induction front with
  | nil =>
      rfl
  | cons row front ih =>
      have hrow := h row List.mem_cons_self
      have hfront := ih fun other hother => h other (List.mem_cons_of_mem row hother)
      simp [rows_append_delimiter hrow, hfront]

theorem rows_append_of_notMem {row : Text} (h : delimiter ∉ row) {rest next : Text}
    {later : List Text} (hrest : rows rest = next :: later) :
    rows (row ++ rest) = (row ++ next) :: later := by
  induction row with
  | nil =>
      exact hrest
  | cons c row ih =>
      rw [List.mem_cons, not_or] at h
      exact rows_cons_of_ne (Ne.symm h.left) (ih h.right)

theorem rowExtent_append (row next : Text) (later : List Text) :
    rowExtent (row ++ next) later = row.length + rowExtent next later := by
  cases later with
  | nil =>
      exact List.length_append
  | cons following later =>
      rw [rowExtent, rowExtent, List.length_append, Nat.add_assoc]

theorem rows_append {a b : Text} {front : List Text} {row next : Text} {later : List Text}
    (ha : rows a = front ++ [row]) (hb : rows b = next :: later) :
    rows (a ++ b) = front ++ (row ++ next) :: later := by
  have hsplit : a ++ b = closeRows front ++ (row ++ b) := by
    rw [eq_around_row ha]
    simp [openRows]
  rw [hsplit, rows_closeRows_append (notMem_front ha), rows_append_of_notMem (notMem_row ha) hb]

/-!
## Closed pieces

A piece of text is a closed row if its only delimiter is its last character.
-/

theorem exists_row_of_closed {piece : Text} (hcount : piece.count delimiter = 1)
    (hlast : piece.getLast? = some delimiter) :
    ∃ row, delimiter ∉ row ∧ piece = row ++ [delimiter] := by
  rcases List.getLast?_eq_some_iff.mp hlast with ⟨row, hpiece⟩
  refine ⟨row, ?_, hpiece⟩
  rw [hpiece, List.count_append, List.count_singleton_self] at hcount
  exact List.count_eq_zero.mp (Nat.succ.inj hcount)

theorem closed_of_notMem {row : Text} (h : delimiter ∉ row) :
    (row ++ [delimiter]).count delimiter = 1 ∧
      (row ++ [delimiter]).getLast? = some delimiter := by
  constructor
  · rw [List.count_append, List.count_eq_zero.mpr h, List.count_singleton_self]
  · exact List.getLast?_concat

end Text
end TextCoordinates
