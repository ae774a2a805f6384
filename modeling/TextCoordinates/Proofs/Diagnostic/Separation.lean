import TextCoordinates.Proofs.Diagnostic.Noted
import TextCoordinates.Proofs.Json.Controls
import TextCoordinates.Proofs.Text.Blocks

/-!
# Several diagnostics

Diagnostics that are written one after the other stand apart by an empty row.  A diagnostic
has no empty row of its own: every note shows its topic, and the other styles write one row.
So the blocks of the text are the diagnostics, as long as no field runs over several rows;
the style with JSON objects asks for nothing, because it escapes every delimiter.
-/

namespace TextCoordinates
namespace Diagnostic

theorem note_ne_nil (topic content : Text) : note topic content ≠ [] := by
  rw [note_eq_append_cons]
  exact List.cons_ne_nil _ _

theorem OneRowEach.dense_renderNoted {diagnostic : Diagnostic} (h : diagnostic.OneRowEach)
    (color : Bool) : Text.Dense (diagnostic.renderNoted color) := by
  intro row hrow
  rw [h.rows_renderNoted, rows, List.tail_cons] at hrow
  rcases exists_of_mem_notes hrow with ⟨topic, content, _htopic, _hcontent, hnote⟩
  rw [hnote]
  exact note_ne_nil topic content

theorem dense_renderSimple {diagnostic : Diagnostic}
    (h : Text.delimiter ∉ diagnostic.message) : Text.Dense diagnostic.renderSimple := by
  apply Text.dense_of_notMem
  have hname := delimiter_notMem_name diagnostic.code
  unfold renderSimple
  simp only [List.mem_append, not_or]
  exact ⟨⟨hname, by decide⟩, h⟩

theorem dense_renderJson (diagnostic : Diagnostic) : Text.Dense diagnostic.renderJson :=
  Text.dense_of_notMem (Json.freeOfControls_print (.object diagnostic.members)).delimiter_notMem

namespace Formatter

/-- No text that the style shows as it is runs over several rows. -/
def OneRowEach (formatter : Formatter) (diagnostic : Diagnostic) : Prop :=
  match formatter.style with
  | .rust => diagnostic.OneRowEach
  | .simple => Text.delimiter ∉ diagnostic.message
  | .json => True

theorem OneRowEach.dense_render {formatter : Formatter} {diagnostic : Diagnostic}
    (h : formatter.OneRowEach diagnostic) : Text.Dense (formatter.render diagnostic) := by
  unfold OneRowEach at h
  unfold render
  cases hstyle : formatter.style with
  | rust =>
      rw [hstyle] at h
      exact Diagnostic.OneRowEach.dense_renderNoted h formatter.color
  | simple =>
      rw [hstyle] at h
      exact dense_renderSimple h
  | json =>
      exact dense_renderJson diagnostic

/-- Diagnostics that are written together are told apart at the empty rows between them. -/
theorem renderAll_separable (formatter : Formatter) :
    (∀ diagnostics : List Diagnostic, diagnostics ≠ [] →
      (∀ diagnostic ∈ diagnostics, formatter.OneRowEach diagnostic) →
      (formatter.renderAll diagnostics).blocks = diagnostics.map formatter.render) ∧
    (∀ front back : List Diagnostic, front ≠ [] → back ≠ [] →
      formatter.renderAll (front ++ back) =
        formatter.renderAll front ++ Text.delimiter :: Text.delimiter ::
          formatter.renderAll back) := by
  constructor
  · intro diagnostics hne h
    have hpieces : diagnostics.map formatter.render ≠ [] :=
      fun hnil => hne (List.map_eq_nil_iff.mp hnil)
    apply Text.blocks_joinBlocks hpieces
    intro piece hpiece
    rcases List.mem_map.mp hpiece with ⟨diagnostic, hmem, rfl⟩
    exact (h diagnostic hmem).dense_render
  · intro front back hfront hback
    rw [renderAll, List.map_append]
    exact Text.joinBlocks_append (fun hnil => hfront (List.map_eq_nil_iff.mp hnil))
      fun hnil => hback (List.map_eq_nil_iff.mp hnil)

theorem renderAll_separable_empty_received :
    let formatter : Formatter := ⟨.rust, true⟩
    let first : Diagnostic := { code := .lineTableEmpty, message := "", received := some "" }
    let second : Diagnostic :=
      { code := .spanBoundNegative, message := "help: ", argument := some "", hint := some "h",
        severity := "a\n\nb" }
    formatter.OneRowEach first ∧ formatter.OneRowEach second ∧
      (formatter.renderAll [first, second]).blocks =
        [formatter.render first, formatter.render second] ∧
      formatter.renderAll ([first] ++ [second, first]) =
        formatter.renderAll [first] ++ Text.delimiter :: Text.delimiter ::
          formatter.renderAll [second, first] := by
  intro formatter first second
  have hfirst : first.OneRowEach := by
    decide
  have hsecond : second.OneRowEach := by
    decide
  rcases renderAll_separable formatter with ⟨hblocks, happend⟩
  refine ⟨hfirst, hsecond, hblocks [first, second] (List.cons_ne_nil _ _) ?_,
    happend _ _ (List.cons_ne_nil _ _) (List.cons_ne_nil _ _)⟩
  intro diagnostic hmem
  rcases List.mem_cons.mp hmem with rfl | hmem
  · exact hfirst
  · rcases List.mem_singleton.mp hmem with rfl
    exact hsecond

end Formatter
end Diagnostic
end TextCoordinates
