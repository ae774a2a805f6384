import TextCoordinates.Proofs.Diagnostic.Field
import TextCoordinates.Proofs.Text.Rows

/-!
# Telling noted diagnostics apart

In the style with notes a diagnostic is a header row with a row for every note below it.
As long as no field runs over several rows, the rows are read off the text.  The header
gives back the class of the severity, the code and the message, and every note tells its
topic before its content, so the rows give back all that is shown.
-/

namespace TextCoordinates

namespace Diagnostic

/-!
## The header
-/

namespace Severity

/-- What is shown of both severities up to the first character in which they differ. -/
def shownStart (color : Bool) : Text :=
  if color then "\x1b[1;3" else ""

/-- The first letter of the word, or the last digit of its color. -/
def mark (color : Bool) : Severity → Char
  | error => if color then '1' else 'e'
  | warning => if color then '3' else 'w'

theorem mark_injective {color : Bool} {severity other : Severity}
    (h : severity.mark color = other.mark color) : severity = other := by
  revert h
  cases color <;> cases severity <;> cases other <;> decide

theorem exists_shown_eq (color : Bool) (severity : Severity) :
    ∃ rest, severity.shown color = shownStart color ++ severity.mark color :: rest := by
  cases color <;> cases severity <;> exact ⟨_, rfl⟩

/-- Both severities are shown alike up to one character, which tells them apart. -/
theorem shown_append_inj {severity other : Severity} {color : Bool} {rest tail : Text}
    (h : severity.shown color ++ rest = other.shown color ++ tail) :
    severity = other ∧ rest = tail := by
  have hsame : severity = other := by
    rcases exists_shown_eq color severity with ⟨_, hseverity⟩
    rcases exists_shown_eq color other with ⟨_, hother⟩
    rw [hseverity, hother, List.append_assoc, List.append_assoc] at h
    exact mark_injective (List.cons.inj (List.append_cancel_left h)).1
  subst hsame
  exact ⟨rfl, List.append_cancel_left h⟩

theorem ofWord_eq_warning_iff {word : Text} : ofWord word = warning ↔ word = "warning" := by
  unfold ofWord
  split
  · rename_i hword
    exact iff_of_true rfl hword
  · rename_i hword
    exact iff_of_false Severity.noConfusion hword

end Severity

theorem severityClass_eq_iff {a b : Diagnostic} :
    a.severityClass = b.severityClass ↔ (a.severity = "warning" ↔ b.severity = "warning") := by
  rw [← Severity.ofWord_eq_warning_iff, ← Severity.ofWord_eq_warning_iff]
  unfold severityClass
  cases Severity.ofWord a.severity <;> cases Severity.ofWord b.severity <;> decide

theorem label_eq_append_cons (diagnostic : Diagnostic) :
    diagnostic.label =
      '[' :: (diagnostic.code.name ++ ']' :: (':' :: ' ' :: diagnostic.message)) := by
  unfold label
  rw [List.append_assoc]
  rfl

theorem bracket_notMem_name (code : Code) : ']' ∉ code.name := by
  cases code <;> decide

theorem label_eq_label_iff {a b : Diagnostic} :
    a.label = b.label ↔ a.code = b.code ∧ a.message = b.message := by
  constructor
  · intro h
    rw [label_eq_append_cons, label_eq_append_cons] at h
    rcases Text.sides_of_append_cons (bracket_notMem_name a.code) (bracket_notMem_name b.code)
      (List.cons.inj h).2 with ⟨hname, hmessage⟩
    exact ⟨Code.name_injective hname, (List.cons.inj (List.cons.inj hmessage).2).2⟩
  · rintro ⟨hcode, hmessage⟩
    rw [label, label, hcode, hmessage]

theorem header_eq_header_iff {a b : Diagnostic} {color : Bool} :
    a.header color = b.header color ↔
      a.severityClass = b.severityClass ∧ a.code = b.code ∧ a.message = b.message := by
  constructor
  · intro h
    rcases Severity.shown_append_inj h with ⟨hclass, hlabel⟩
    exact ⟨hclass, label_eq_label_iff.mp hlabel⟩
  · rintro ⟨hclass, hlabel⟩
    rw [header, header, hclass, label_eq_label_iff.mpr hlabel]

/-!
## The notes

No topic holds a colon, so a note gives back its topic and its content.
-/

theorem note_eq_append_cons (topic content : Text) :
    note topic content = ' ' :: ' ' :: '=' :: ' ' :: (topic ++ ':' :: ' ' :: content) := by
  unfold note
  rw [List.append_assoc, List.append_assoc]
  rfl

theorem note_eq_note_iff {topic other content rest : Text} (htopic : ':' ∉ topic)
    (hother : ':' ∉ other) :
    note topic content = note other rest ↔ topic = other ∧ content = rest := by
  constructor
  · intro h
    rw [note_eq_append_cons, note_eq_append_cons] at h
    simp only [List.cons.injEq, true_and] at h
    rcases Text.sides_of_append_cons htopic hother h with ⟨hsame, hcontent⟩
    exact ⟨hsame, (List.cons.inj hcontent).2⟩
  · rintro ⟨hsame, hcontent⟩
    rw [hsame, hcontent]

theorem some_note_eq_map_iff {topic other content : Text} {field : Option Text}
    (htopic : ':' ∉ topic) (hother : ':' ∉ other) :
    some (note topic content) = field.map (note other) ↔
      topic = other ∧ field = some content := by
  cases field with
  | none =>
      simp
  | some given =>
      rw [Option.map_some, Option.some_inj, note_eq_note_iff htopic hother, Option.some_inj,
        eq_comm (a := content)]

theorem mem_notes {diagnostic : Diagnostic} {topic content : Text} (htopic : ':' ∉ topic) :
    note topic content ∈ diagnostic.notes ↔
      topic = "argument" ∧ present diagnostic.argument = some content ∨
        topic = "expected" ∧ present diagnostic.expected = some content ∨
          topic = "received" ∧ diagnostic.received = some content ∨
            topic = "help" ∧ present diagnostic.hint = some content := by
  simp only [notes, mem_filterMap_id, List.mem_cons, List.not_mem_nil, or_false]
  rw [some_note_eq_map_iff htopic (by decide), some_note_eq_map_iff htopic (by decide),
    some_note_eq_map_iff htopic (by decide), some_note_eq_map_iff htopic (by decide)]

/-- A field is known by the content of the note on its topic, or by the lack of one, so equal
notes give equal fields. -/
theorem notes_eq_notes_iff {a b : Diagnostic} :
    a.notes = b.notes ↔
      present a.argument = present b.argument ∧ present a.expected = present b.expected ∧
        a.received = b.received ∧ present a.hint = present b.hint := by
  constructor
  · intro h
    have hmem (topic content : Text) (htopic : ':' ∉ topic) :
        note topic content ∈ a.notes ↔ note topic content ∈ b.notes := by
      rw [h]
    refine ⟨?_, ?_, ?_, ?_⟩
    · ext content
      simpa [mem_notes] using hmem "argument" content (by decide)
    · ext content
      simpa [mem_notes] using hmem "expected" content (by decide)
    · ext content
      simpa [mem_notes] using hmem "received" content (by decide)
    · ext content
      simpa [mem_notes] using hmem "help" content (by decide)
  · rintro ⟨hargument, hexpected, hreceived, hhint⟩
    rw [notes, notes, hargument, hexpected, hreceived, hhint]

theorem length_notes (diagnostic : Diagnostic) :
    diagnostic.notes.length = diagnostic.shownCount := by
  rw [notes, length_filterMap_id, shownCount]
  simp only [List.map_cons, List.map_nil, Option.isSome_map, isSome_present]

/-!
## One row for each note

What a diagnostic shows between its fields holds no delimiter.
-/

theorem delimiter_notMem_shown (color : Bool) (severity : Severity) :
    Text.delimiter ∉ severity.shown color := by
  cases color <;> cases severity <;> decide

theorem delimiter_notMem_name (code : Code) : Text.delimiter ∉ code.name := by
  cases code <;> decide

theorem delimiter_notMem_note {topic content : Text} (htopic : Text.delimiter ∉ topic)
    (hcontent : Text.delimiter ∉ content) : Text.delimiter ∉ note topic content := by
  unfold note
  simp only [List.mem_append, not_or]
  exact ⟨⟨⟨by decide, htopic⟩, by decide⟩, hcontent⟩

theorem delimiter_notMem_header {diagnostic : Diagnostic}
    (h : Text.delimiter ∉ diagnostic.message) (color : Bool) :
    Text.delimiter ∉ diagnostic.header color := by
  have hshown := delimiter_notMem_shown color diagnostic.severityClass
  have hname := delimiter_notMem_name diagnostic.code
  unfold header label
  simp only [List.mem_append, List.mem_cons, not_or]
  exact ⟨hshown, ⟨⟨by decide, hname⟩, by decide⟩, h⟩

theorem exists_of_some_eq_map_note {topic row : Text} {field : Option Text}
    (h : some row = field.map (note topic)) :
    ∃ content, some content = field ∧ row = note topic content := by
  rcases Option.map_eq_some_iff.mp h.symm with ⟨content, hfield, hrow⟩
  exact ⟨content, hfield.symm, hrow.symm⟩

theorem exists_of_some_eq_map_note_present {topic row : Text} {field : Option Text}
    (h : some row = (present field).map (note topic)) :
    ∃ content, some content = field ∧ row = note topic content := by
  rcases exists_of_some_eq_map_note h with ⟨content, hpresent, hrow⟩
  exact ⟨content, (eq_some_of_present_eq_some hpresent.symm).symm, hrow⟩

theorem exists_of_mem_notes {diagnostic : Diagnostic} {row : Text}
    (h : row ∈ diagnostic.notes) :
    ∃ topic content, Text.delimiter ∉ topic ∧ content ∈ diagnostic.contents ∧
      row = note topic content := by
  simp only [notes, mem_filterMap_id, List.mem_cons, List.not_mem_nil, or_false] at h
  simp only [mem_contents]
  rcases h with hargument | hexpected | hreceived | hhint
  · rcases exists_of_some_eq_map_note_present hargument with ⟨content, hfield, hrow⟩
    exact ⟨_, content, by decide, Or.inr (Or.inl hfield), hrow⟩
  · rcases exists_of_some_eq_map_note_present hexpected with ⟨content, hfield, hrow⟩
    exact ⟨_, content, by decide, Or.inr (Or.inr (Or.inl hfield)), hrow⟩
  · rcases exists_of_some_eq_map_note hreceived with ⟨content, hfield, hrow⟩
    exact ⟨_, content, by decide, Or.inr (Or.inr (Or.inr (Or.inl hfield))), hrow⟩
  · rcases exists_of_some_eq_map_note_present hhint with ⟨content, hfield, hrow⟩
    exact ⟨_, content, by decide, Or.inr (Or.inr (Or.inr (Or.inr hfield))), hrow⟩

theorem OneRowEach.delimiter_notMem {diagnostic : Diagnostic} (h : diagnostic.OneRowEach)
    (color : Bool) : ∀ row ∈ diagnostic.rows color, Text.delimiter ∉ row := by
  intro row hrow
  rcases List.mem_cons.mp hrow with heq | hnote
  · rw [heq]
    exact delimiter_notMem_header (h _ (mem_contents.mpr (Or.inl rfl))) color
  · rcases exists_of_mem_notes hnote with ⟨topic, content, htopic, hcontent, heq⟩
    rw [heq]
    exact delimiter_notMem_note htopic (h content hcontent)

theorem OneRowEach.rows_renderNoted {diagnostic : Diagnostic} (h : diagnostic.OneRowEach)
    (color : Bool) : (diagnostic.renderNoted color).rows = diagnostic.rows color :=
  Text.rows_joinRows (List.cons_ne_nil _ _) (h.delimiter_notMem color)

theorem renderNoted_eq_renderNoted_iff {a b : Diagnostic} (ha : a.OneRowEach)
    (hb : b.OneRowEach) {color : Bool} :
    a.renderNoted color = b.renderNoted color ↔
      a.header color = b.header color ∧ a.notes = b.notes := by
  constructor
  · intro h
    have hrows : a.rows color = b.rows color := by
      rw [← ha.rows_renderNoted, h, hb.rows_renderNoted]
    exact List.cons.inj hrows
  · rintro ⟨hheader, hnotes⟩
    rw [renderNoted, renderNoted, rows, rows, hheader, hnotes]

/-!
## Colors
-/

namespace Severity

/-- A terminal takes an escape character, an opening bracket, numbers with semicolons
between them, and the letter m as a command to change the look of what follows. -/
def IsColorSequence (text : Text) : Prop :=
  ∃ numbers : Text, text = '\x1b' :: '[' :: (numbers ++ ['m']) ∧
    ∀ c ∈ numbers, c.isDigit = true ∨ c = ';'

theorem isColorSequence_colorSequence (severity : Severity) :
    IsColorSequence severity.colorSequence := by
  cases severity with
  | error =>
      exact ⟨['1', ';', '3', '1'], rfl, by simp⟩
  | warning =>
      exact ⟨['1', ';', '3', '3'], rfl, by simp⟩

theorem isColorSequence_resetSequence : IsColorSequence resetSequence :=
  ⟨['0'], rfl, by simp⟩

end Severity

theorem renderNoted_eq_append (color : Bool) (diagnostic : Diagnostic) :
    diagnostic.renderNoted color =
      diagnostic.severityClass.shown color ++
        (diagnostic.label ++ Text.openRows diagnostic.notes) := by
  rw [renderNoted, rows, Text.joinRows_cons, header, List.append_assoc]

theorem word_severityClass (diagnostic : Diagnostic) :
    diagnostic.severityClass.word =
      if diagnostic.severity = "warning" then "warning" else "error" := by
  unfold severityClass Severity.ofWord
  split
  · rfl
  · rfl

/-- The rows are as many as there are fields to show, they tell apart any two diagnostics
that show something different, and color changes nothing but the look of the first word. -/
theorem render_rust_unambiguous {a b : Diagnostic} (ha : a.OneRowEach) (hb : b.OneRowEach)
    (color : Bool) :
    ((Formatter.mk .rust color).render a = (Formatter.mk .rust color).render b ↔
      a.code = b.code ∧ a.message = b.message ∧
      (a.severity = "warning" ↔ b.severity = "warning") ∧ a.received = b.received ∧
      a.argument.getD [] = b.argument.getD [] ∧ a.expected.getD [] = b.expected.getD [] ∧
      a.hint.getD [] = b.hint.getD []) ∧
    ((Formatter.mk .rust color).render a).rows.length = 1 + a.shownCount ∧
    ∃ word on off rest : Text, word = (if a.severity = "warning" then "warning" else "error") ∧
      Severity.IsColorSequence on ∧ Severity.IsColorSequence off ∧
      (Formatter.mk .rust false).render a = word ++ rest ∧
      (Formatter.mk .rust true).render a = on ++ word ++ off ++ rest := by
  refine ⟨?_, ?_, ?_⟩
  · show a.renderNoted color = b.renderNoted color ↔ _
    rw [renderNoted_eq_renderNoted_iff ha hb, header_eq_header_iff, notes_eq_notes_iff,
      severityClass_eq_iff, present_eq_present_iff, present_eq_present_iff,
      present_eq_present_iff]
    constructor
    · rintro ⟨⟨hclass, hcode, hmessage⟩, hargument, hexpected, hreceived, hhint⟩
      exact ⟨hcode, hmessage, hclass, hreceived, hargument, hexpected, hhint⟩
    · rintro ⟨hcode, hmessage, hclass, hreceived, hargument, hexpected, hhint⟩
      exact ⟨⟨hclass, hcode, hmessage⟩, hargument, hexpected, hreceived, hhint⟩
  · show (a.renderNoted color).rows.length = 1 + a.shownCount
    rw [ha.rows_renderNoted, rows, List.length_cons, length_notes, Nat.add_comm]
  · refine ⟨a.severityClass.word, a.severityClass.colorSequence, Severity.resetSequence,
      a.label ++ Text.openRows a.notes, word_severityClass a,
      Severity.isColorSequence_colorSequence a.severityClass,
      Severity.isColorSequence_resetSequence, ?_, ?_⟩
    · exact renderNoted_eq_append false a
    · exact renderNoted_eq_append true a

/-- A message may look like a note and a note like the message of another diagnostic. -/
theorem render_rust_unambiguous_look_alike :
    let a : Diagnostic :=
      ⟨.positionOutOfRange, "  = help: x]: y", none, some "", none, some "", "warning"⟩
    let b : Diagnostic :=
      ⟨.positionOutOfRange, "", none, none, none, some "x]: y", "warning"⟩
    a.OneRowEach ∧ b.OneRowEach ∧
      (Formatter.mk .rust true).render a ≠ (Formatter.mk .rust true).render b ∧
      ((Formatter.mk .rust true).render a).rows.length = 2 := by
  intro a b
  have ha : a.OneRowEach := by decide
  have hb : b.OneRowEach := by decide
  rcases render_rust_unambiguous ha hb true with ⟨hiff, hlength, _⟩
  refine ⟨ha, hb, ?_, hlength⟩
  intro heq
  have hmessage := (hiff.mp heq).2.1
  exact absurd hmessage (by decide)

end Diagnostic
end TextCoordinates
