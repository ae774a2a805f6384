import TextCoordinates.Diagnostic.Format

/-!
# Fields of a diagnostic

Most optional fields count an empty text as a missing one.  The styles list what is shown
of the fields in their order, and leave out the others.
-/

namespace TextCoordinates
namespace Diagnostic

/-!
## Missing and empty fields
-/

theorem getD_present (field : Option Text) : (present field).getD [] = field.getD [] := by
  match field with
  | none =>
      simp
  | some [] =>
      simp
  | some (c :: rest) =>
      simp

theorem present_some_getD (field : Option Text) :
    present (some (field.getD [])) = present field := by
  cases field with
  | none =>
      simp
  | some content =>
      rfl

theorem present_eq_present_iff {field other : Option Text} :
    present field = present other ↔ field.getD [] = other.getD [] := by
  constructor
  · intro h
    rw [← getD_present field, h, getD_present other]
  · intro h
    rw [← present_some_getD field, h, present_some_getD other]

theorem eq_some_of_present_eq_some {field : Option Text} {content : Text}
    (h : present field = some content) : field = some content :=
  (Option.filter_eq_some_iff.mp h).1

theorem isSome_present (field : Option Text) :
    (present field).isSome = decide (field.getD [] ≠ []) := by
  match field with
  | none =>
      simp
  | some [] =>
      simp
  | some (c :: rest) =>
      simp

/-!
## Listing what is shown
-/

theorem filterMap_id_cons (field : Option α) (fields : List (Option α)) :
    (field :: fields).filterMap id = field.toList ++ fields.filterMap id := by
  cases field with
  | none =>
      rfl
  | some content =>
      rfl

theorem mem_filterMap_id {content : α} {fields : List (Option α)} :
    content ∈ fields.filterMap id ↔ some content ∈ fields := by
  rw [List.mem_filterMap]
  exact exists_eq_right

theorem length_filterMap_id (fields : List (Option α)) :
    (fields.filterMap id).length = (fields.map Option.isSome).count true := by
  rw [List.length_filterMap_eq_countP, List.count_eq_countP, List.countP_map]
  congr 1
  funext field
  cases field <;> rfl

/-!
## Whole diagnostics
-/

/-- The texts that a diagnostic shows as they are; of its severity only the class is shown. -/
def contents (diagnostic : Diagnostic) : List Text :=
  diagnostic.message ::
    [ diagnostic.argument, diagnostic.expected, diagnostic.received,
      diagnostic.hint ].filterMap id

theorem mem_contents {diagnostic : Diagnostic} {content : Text} :
    content ∈ diagnostic.contents ↔
      content = diagnostic.message ∨ some content = diagnostic.argument ∨
        some content = diagnostic.expected ∨ some content = diagnostic.received ∨
          some content = diagnostic.hint := by
  simp only [contents, List.mem_cons, mem_filterMap_id, List.not_mem_nil, or_false]

/-- No text of the diagnostic runs over several rows. -/
def OneRowEach (diagnostic : Diagnostic) : Prop :=
  ∀ content ∈ diagnostic.contents, Text.delimiter ∉ content

instance (diagnostic : Diagnostic) : Decidable diagnostic.OneRowEach :=
  inferInstanceAs (Decidable (∀ content ∈ diagnostic.contents, Text.delimiter ∉ content))

/-- How many of the optional fields have something to show. -/
def shownCount (diagnostic : Diagnostic) : Nat :=
  [ decide (diagnostic.argument.getD [] ≠ []), decide (diagnostic.expected.getD [] ≠ []),
    diagnostic.received.isSome, decide (diagnostic.hint.getD [] ≠ []) ].count true

end Diagnostic
end TextCoordinates
