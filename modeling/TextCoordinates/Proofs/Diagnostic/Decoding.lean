import TextCoordinates.Proofs.Diagnostic.Field
import TextCoordinates.Proofs.Json.Controls
import TextCoordinates.Proofs.Json.RoundTrip
import TextCoordinates.Proofs.Text.Rows

/-!
# Decoding diagnostics

The object of a diagnostic is read back member by member.  A missing member stands
for a field without content, and as every optional member has a name of its own,
the object tells which of them are missing.
-/

namespace TextCoordinates
namespace Diagnostic

/-!
## Optional members
-/

/-- The member of a field that is written whenever it is given. -/
def givenMember (name : Text) : Option Text → List (Text × Json)
  | none => []
  | some content => [(name, .string content)]

/-- The member of a field that is written only if it has content. -/
def filledMember (name : Text) : Option Text → List (Text × Json)
  | none => []
  | some [] => []
  | some (c :: rest) => [(name, .string (c :: rest))]

theorem toList_map_member (name : Text) (field : Option Text) :
    (field.map (member name)).toList = givenMember name field := by
  cases field with
  | none =>
      rfl
  | some content =>
      rfl

theorem givenMember_present (name : Text) (field : Option Text) :
    givenMember name (present field) = filledMember name field := by
  match field with
  | none =>
      rfl
  | some [] =>
      simp [givenMember, filledMember]
  | some (c :: rest) =>
      simp [givenMember, filledMember]

theorem optionalMembers_eq (diagnostic : Diagnostic) :
    diagnostic.optionalMembers =
      filledMember "argument_name" diagnostic.argument
        ++ givenMember "received_value" diagnostic.received
        ++ filledMember "expected" diagnostic.expected
        ++ filledMember "hint" diagnostic.hint := by
  simp only [optionalMembers, filterMap_id_cons, List.filterMap_nil, toList_map_member,
    givenMember_present, List.append_nil, List.append_assoc]

theorem mem_givenMember {name other content : Text} {field : Option Text} :
    (other, Json.string content) ∈ givenMember name field ↔
      other = name ∧ field = some content := by
  cases field with
  | none =>
      simp [givenMember]
  | some given =>
      simp [givenMember, eq_comm]

theorem mem_optionalMembers {diagnostic : Diagnostic} {name content : Text} :
    (name, Json.string content) ∈ diagnostic.optionalMembers ↔
      name = "argument_name" ∧ present diagnostic.argument = some content ∨
        name = "received_value" ∧ diagnostic.received = some content ∨
          name = "expected" ∧ present diagnostic.expected = some content ∨
            name = "hint" ∧ present diagnostic.hint = some content := by
  simp only [optionalMembers_eq, ← givenMember_present, List.mem_append, mem_givenMember,
    or_assoc]

/-- A field is known by the content that stands under its name, or by its absence, so equal
members give equal fields. -/
theorem optionalMembers_eq_optionalMembers_iff {a b : Diagnostic} :
    a.optionalMembers = b.optionalMembers ↔
      present a.argument = present b.argument ∧ a.received = b.received ∧
        present a.expected = present b.expected ∧ present a.hint = present b.hint := by
  constructor
  · intro h
    have hmem (name content : Text) :
        (name, Json.string content) ∈ a.optionalMembers ↔
          (name, Json.string content) ∈ b.optionalMembers := by
      rw [h]
    simp only [mem_optionalMembers] at hmem
    refine ⟨?_, ?_, ?_, ?_⟩
    · ext content
      simpa using hmem "argument_name" content
    · ext content
      simpa using hmem "received_value" content
    · ext content
      simpa using hmem "expected" content
    · ext content
      simpa using hmem "hint" content
  · rintro ⟨hargument, hreceived, hexpected, hhint⟩
    unfold optionalMembers
    rw [hargument, hreceived, hexpected, hhint]

/-!
## Whole objects
-/

theorem members_eq_members_iff {a b : Diagnostic} :
    a.members = b.members ↔
      a.code = b.code ∧ a.message = b.message ∧ a.severity = b.severity ∧
        a.optionalMembers = b.optionalMembers := by
  constructor
  · intro h
    simp only [members, member, List.cons.injEq, Prod.mk.injEq, Json.string.injEq, true_and] at h
    rcases h with ⟨hcode, _hnumber, hmessage, hseverity, hoptional⟩
    exact ⟨Code.name_injective hcode, hmessage, hseverity, hoptional⟩
  · rintro ⟨hcode, hmessage, hseverity, hoptional⟩
    unfold members
    rw [hcode, hmessage, hseverity, hoptional]

theorem renderJson_eq_renderJson_iff {a b : Diagnostic} :
    a.renderJson = b.renderJson ↔ a.members = b.members := by
  constructor
  · intro h
    exact Json.object.inj (Json.print_injective h)
  · intro h
    unfold renderJson
    rw [h]

/-- What a reader finds in the written object of a diagnostic. -/
def decodedMembers (diagnostic : Diagnostic) : List (Text × Json) :=
  ([ ("code", .string diagnostic.code.name),
     ("code_value", .int diagnostic.code.number),
     ("message", .string diagnostic.message),
     ("severity", .string diagnostic.severity) ] : List (Text × Json))
    ++ filledMember "argument_name" diagnostic.argument
    ++ givenMember "received_value" diagnostic.received
    ++ filledMember "expected" diagnostic.expected
    ++ filledMember "hint" diagnostic.hint

theorem members_eq_decodedMembers (diagnostic : Diagnostic) :
    diagnostic.members = diagnostic.decodedMembers := by
  unfold members decodedMembers
  rw [optionalMembers_eq]
  simp only [member, List.cons_append, List.nil_append, List.append_assoc]

/-- The written object is one row, is read back with every field as it was given, and
tells apart any two diagnostics that differ in more than an empty and a missing field. -/
theorem render_json_decodable (color : Bool) (a : Diagnostic) :
    Json.FreeOfControls ((Formatter.mk .json color).render a) ∧
    ((Formatter.mk .json color).render a).rows = [(Formatter.mk .json color).render a] ∧
    Json.read ((Formatter.mk .json color).render a) = some (.object a.decodedMembers) ∧
    ∀ b : Diagnostic,
      (Formatter.mk .json color).render a = (Formatter.mk .json color).render b ↔
        a.code = b.code ∧ a.message = b.message ∧ a.severity = b.severity ∧
        a.argument.getD [] = b.argument.getD [] ∧ a.received = b.received ∧
        a.expected.getD [] = b.expected.getD [] ∧ a.hint.getD [] = b.hint.getD [] := by
  have hcontrols : Json.FreeOfControls ((Formatter.mk .json color).render a) :=
    Json.freeOfControls_print (.object a.members)
  refine ⟨hcontrols, Text.rows_of_notMem hcontrols.delimiter_notMem, ?_, ?_⟩
  · show Json.read (Json.print (.object a.members)) = some (.object a.decodedMembers)
    rw [Json.read_print, members_eq_decodedMembers]
  · intro b
    show a.renderJson = b.renderJson ↔ _
    rw [renderJson_eq_renderJson_iff, members_eq_members_iff,
      optionalMembers_eq_optionalMembers_iff, present_eq_present_iff, present_eq_present_iff,
      present_eq_present_iff]

end Diagnostic
end TextCoordinates
