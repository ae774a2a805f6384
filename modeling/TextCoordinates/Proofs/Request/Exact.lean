import TextCoordinates.Proofs.Request.Refusal
import TextCoordinates.Proofs.Request.Requirement

/-!
# Requests

A request asks for a span, a line map or something that a line map knows.  It is
answered if all of its requirements hold, and otherwise the first one that fails is
reported, whatever the request is.  Operations that are built from others check again
what those check, and none of these inner checks fails.  Each refusal states the value
that it refuses twice, and the two agree.
-/

namespace TextCoordinates

/-!
## Checking from the front

An operation checks requirements if it answers when they all hold, and otherwise fails
for the first one that does not.
-/

inductive Checks {α : Type} (requirements : List Requirement) : Except Violation α → Prop where
  | accepted (answer : α) (h : ∀ requirement ∈ requirements, requirement.Holds) :
      Checks requirements (.ok answer)
  | rejected (violation : Violation)
      (h : Requirement.FirstFailing requirements violation.requirement) :
      Checks requirements (.error violation)

/-- A result for the caller, with the failure that reports the violation. -/
def reported {α : Type} : Except Violation α → Except Failure α
  | .ok answer => .ok answer
  | .error violation => .error violation

theorem reported_eq_mapError {α : Type} (result : Except Violation α) :
    reported result = (result.mapError Violation.report).mapError Failure.outOfRange := by
  cases result with
  | ok answer =>
      rfl
  | error violation =>
      rfl

namespace Checks

variable {α β : Type} {requirements : List Requirement}

theorem nothing (answer : α) : Checks [] (.ok answer) :=
  accepted answer (List.forall_mem_nil _)

theorem guarded (violation : Violation) {condition : Prop} [Decidable condition]
    {rest : Except Violation α} (hcondition : condition ↔ ¬ violation.requirement.Holds)
    (hrest : Checks requirements rest) :
    Checks (violation.requirement :: requirements)
      (if condition then .error violation else rest) := by
  by_cases hfails : condition
  · rw [if_pos hfails]
    exact rejected violation
      (Requirement.firstFailing_head (hcondition.mp hfails) requirements)
  · have hholds : violation.requirement.Holds :=
      Decidable.not_not.mp fun hnot => hfails (hcondition.mpr hnot)
    rw [if_neg hfails]
    cases hrest with
    | accepted answer hall =>
        exact accepted answer (List.forall_mem_cons.mpr ⟨hholds, hall⟩)
    | rejected failure hfirst =>
        exact rejected failure (Requirement.firstFailing_cons hholds hfirst)

theorem map {result : Except Violation α} (h : Checks requirements result) (f : α → β) :
    Checks requirements (result.map f) := by
  cases h with
  | accepted answer hall =>
      exact accepted (f answer) hall
  | rejected violation hfirst =>
      exact rejected violation hfirst

theorem reported_eq_ok_iff {result : Except Violation α} (h : Checks requirements result) :
    (∃ answer, reported result = .ok answer) ↔
      ∀ requirement ∈ requirements, requirement.Holds := by
  cases h with
  | accepted answer hall =>
      exact iff_of_true ⟨answer, rfl⟩ hall
  | rejected violation hfirst =>
      refine iff_of_false ?_ hfirst.not_all
      intro hanswer
      rcases hanswer with ⟨answer, hanswer⟩
      cases hanswer

theorem reported_eq_error {result : Except Violation α} (h : Checks requirements result)
    (hfails : ¬ ∀ requirement ∈ requirements, requirement.Holds) :
    ∃ report failing, reported result = .error (.outOfRange report) ∧
      Requirement.FirstFailing requirements failing ∧ report.Reports failing := by
  cases h with
  | accepted answer hall =>
      exact absurd hall hfails
  | rejected violation hfirst =>
      exact ⟨violation.report, violation.requirement, rfl, hfirst, violation.report_reports⟩

end Checks

/-!
## The operations
-/

theorem Span.checks_ofBounds (start stop : Int) :
    Checks [.nonnegative "start" start, .nonnegative "end" stop] (ofBounds start stop) := by
  apply Checks.guarded (.spanBound "start" start) Int.not_le.symm
  apply Checks.guarded (.spanBound "end" stop) Int.not_le.symm
  exact Checks.nothing _

theorem Span.checks_ofLength (start length : Int) :
    Checks [.nonnegative "start" start, .nonnegative "length" length] (ofLength start length) := by
  apply Checks.guarded (.spanBound "start" start) Int.not_le.symm
  apply Checks.guarded (.spanLength length) Int.not_le.symm
  exact Checks.nothing _

theorem Span.checks_emptyAt (offset : Int) :
    Checks [.nonnegative "at" offset] (emptyAt offset) := by
  apply Checks.guarded (.spanBound "at" offset) Int.not_le.symm
  exact Checks.nothing _

namespace LineMap

theorem checks_ofLines (lines : List Line) :
    Checks [.inhabited "lines" lines.length] (ofLines lines) := by
  cases lines with
  | nil =>
      rw [ofLines_nil]
      exact Checks.rejected .emptyTable (Requirement.firstFailing_head (by decide) [])
  | cons line rest =>
      rcases exists_ofLines_eq_ok (List.cons_ne_nil line rest) with ⟨map, hmap⟩
      rw [hmap]
      exact Checks.accepted map
        (List.forall_mem_singleton.mpr (Nat.le_add_left 1 rest.length))

theorem checks_line (map : LineMap) (number : Int) :
    Checks [.below "line_number" number map.count] (map.line number) := by
  by_cases hentry : 0 ≤ number ∧ number < map.count
  · have hlt : number.toNat < map.toList.length := by
      rw [length_toList]
      lia
    have hline : map.line number = .ok map.toList[number.toNat] :=
      line_eq_ok_iff.mpr ⟨hentry.left, List.getElem?_eq_getElem hlt⟩
    rw [hline]
    exact Checks.accepted _ (List.forall_mem_singleton.mpr hentry)
  · have hline : map.line number = .error (.lineNumber number map.count) := by
      cases hresult : map.line number with
      | error violation =>
          unfold LineMap.line at hresult
          split at hresult
          · cases hresult
          · cases hresult
            rfl
      | ok line =>
          rcases line_eq_ok_iff.mp hresult with ⟨hnonneg, hsome⟩
          have hlt := lt_count_of_getElem? hsome
          exact absurd ⟨hnonneg, by lia⟩ hentry
    have hfails : ¬ (Violation.lineNumber number map.count).requirement.Holds := hentry
    rw [hline]
    exact Checks.rejected _ (Requirement.firstFailing_head hfails [])

theorem checks_locate (map : LineMap) (position : Int) :
    Checks [.upTo "position" position map.size] (map.locate position) := by
  apply Checks.guarded (.position position map.size)
  · show position < 0 ∨ map.size < position ↔ ¬ (0 ≤ position ∧ position ≤ map.size)
    lia
  · exact Checks.nothing _

theorem checks_formatPosition (map : LineMap) (position : Int)
    (numbering : Location.Numbering) :
    Checks [.upTo "position" position map.size] (map.formatPosition position numbering) :=
  (checks_locate map position).map _

theorem checks_lineText (map : LineMap) (text : Text) (number : Int) (keepEnd : Bool) :
    Checks [.below "line_number" number map.count] (map.lineText text number keepEnd) :=
  (checks_line map number).map _

theorem checks_excerpt (map : LineMap) (text : Text) (position context : Int)
    (marker : Text) :
    Checks [.nonnegative "context_lines" context, .upTo "position" position map.size]
      (map.excerpt text position context marker) := by
  apply Checks.guarded (.contextLines context) Int.not_le.symm
  exact (checks_locate map position).map _

end LineMap

/-!
## All requests
-/

inductive Request where
  | span (start stop : Int)
  | spanOfLength (start length : Int)
  | emptySpan (offset : Int)
  | lineMap (lines : List Line)
  | line (map : LineMap) (number : Int)
  | location (map : LineMap) (position : Int)
  | formattedPosition (map : LineMap) (position : Int) (numbering : Location.Numbering)
  | lineText (map : LineMap) (text : Text) (number : Int) (keepEnd : Bool)
  | excerpt (map : LineMap) (text : Text) (position context : Int) (marker : Text)

inductive Answer where
  | span (span : Span)
  | lineMap (map : LineMap)
  | line (line : Line)
  | location (location : Location)
  | text (text : Text)

namespace Request

/-- What is checked of a request, in the order in which it is checked. -/
def requirements : Request → List Requirement
  | span start stop => [.nonnegative "start" start, .nonnegative "end" stop]
  | spanOfLength start length => [.nonnegative "start" start, .nonnegative "length" length]
  | emptySpan offset => [.nonnegative "at" offset]
  | lineMap lines => [.inhabited "lines" lines.length]
  | line map number => [.below "line_number" number map.count]
  | location map position => [.upTo "position" position map.size]
  | formattedPosition map position _ => [.upTo "position" position map.size]
  | lineText map _ number _ => [.below "line_number" number map.count]
  | excerpt map _ position context _ =>
      [.nonnegative "context_lines" context, .upTo "position" position map.size]

def result : Request → Except Violation Answer
  | span start stop => (Span.ofBounds start stop).map .span
  | spanOfLength start length => (Span.ofLength start length).map .span
  | emptySpan offset => (Span.emptyAt offset).map .span
  | lineMap lines => (LineMap.ofLines lines).map .lineMap
  | line map number => (map.line number).map .line
  | location map position => (map.locate position).map .location
  | formattedPosition map position numbering =>
      (map.formatPosition position numbering).map .text
  | lineText map text number keepEnd => (map.lineText text number keepEnd).map .text
  | excerpt map text position context marker =>
      (map.excerpt text position context marker).map .text

/-- The same results with every check on the way: joining two offsets and fetching the rows
of an excerpt by number check what they are given once more. -/
def resultInParts : Request → Except Violation Answer
  | spanOfLength start length => (Span.ofLengthByBounds start length).map .span
  | emptySpan offset => (Span.emptyAtByBounds offset).map .span
  | excerpt map text position context marker =>
      (map.excerptByNumber text position context marker).map .text
  | request => request.result

/-- What comes of a request where each refusal states its diagnostic and its value apart. -/
def outcome : Request → Except OutOfRange Answer
  | span start stop => (Refusing.span start stop).map .span
  | spanOfLength start length => (Refusing.spanOfLength start length).map .span
  | emptySpan offset => (Refusing.emptySpan offset).map .span
  | lineMap lines => (Refusing.lineMap lines).map .lineMap
  | line map number => (Refusing.line map number).map .line
  | location map position => (Refusing.location map position).map .location
  | formattedPosition map position numbering =>
      (Refusing.formattedPosition map position numbering).map .text
  | lineText map text number keepEnd => (Refusing.lineText map text number keepEnd).map .text
  | excerpt map text position context marker =>
      (Refusing.excerpt map text position context marker).map .text

/-- What the caller gets: the answer, or the failure that reports the violation. -/
def answer (request : Request) : Except Failure Answer :=
  reported request.result

theorem checks_result (request : Request) : Checks request.requirements request.result := by
  cases request with
  | span start stop =>
      exact (Span.checks_ofBounds start stop).map _
  | spanOfLength start length =>
      exact (Span.checks_ofLength start length).map _
  | emptySpan offset =>
      exact (Span.checks_emptyAt offset).map _
  | lineMap lines =>
      exact (LineMap.checks_ofLines lines).map _
  | line map number =>
      exact (map.checks_line number).map _
  | location map position =>
      exact (map.checks_locate position).map _
  | formattedPosition map position numbering =>
      exact (map.checks_formatPosition position numbering).map _
  | lineText map text number keepEnd =>
      exact (map.checks_lineText text number keepEnd).map _
  | excerpt map text position context marker =>
      exact (map.checks_excerpt text position context marker).map _

theorem resultInParts_eq_result (request : Request) :
    request.resultInParts = request.result := by
  cases request with
  | spanOfLength start length =>
      exact congrArg (Except.map _) (Span.ofLengthByBounds_eq_ofLength start length)
  | emptySpan offset =>
      exact congrArg (Except.map _) (Span.emptyAtByBounds_eq_emptyAt offset)
  | excerpt map text position context marker =>
      exact congrArg (Except.map _)
        (map.excerptByNumber_eq_excerpt text position context marker)
  | _ =>
      rfl

theorem outcome_eq (request : Request) :
    request.outcome = request.result.mapError Violation.report := by
  cases request with
  | span start stop =>
      rw [outcome, Refusing.span_eq, ← mapError_map, result]
  | spanOfLength start length =>
      rw [outcome, Refusing.spanOfLength_eq, ← mapError_map, result]
  | emptySpan offset =>
      rw [outcome, Refusing.emptySpan_eq, ← mapError_map, result]
  | lineMap lines =>
      rw [outcome, Refusing.lineMap_eq, ← mapError_map, result]
  | line map number =>
      rw [outcome, Refusing.line_eq, ← mapError_map, result]
  | location map position =>
      rw [outcome, Refusing.location_eq, ← mapError_map, result]
  | formattedPosition map position numbering =>
      rw [outcome, Refusing.formattedPosition_eq, ← mapError_map, result]
  | lineText map text number keepEnd =>
      rw [outcome, Refusing.lineText_eq, ← mapError_map, result]
  | excerpt map text position context marker =>
      rw [outcome, Refusing.excerpt_eq, ← mapError_map, result]

theorem mapError_outcome (request : Request) :
    request.outcome.mapError Failure.outOfRange = request.answer := by
  rw [outcome_eq, answer, reported_eq_mapError]

/-- A request is answered exactly if its requirements hold, and otherwise the failure
reports the first one that does not.  Neither the inner checks nor the values that the
refusals state apart make a difference. -/
theorem answer_exact (request : Request) :
    ((∃ answer, request.answer = .ok answer) ↔
        ∀ requirement ∈ request.requirements, requirement.Holds) ∧
      ((¬ ∀ requirement ∈ request.requirements, requirement.Holds) →
        ∃ report failing, request.answer = .error (.outOfRange report) ∧
          Requirement.FirstFailing request.requirements failing ∧
          report.Reports failing) ∧
      request.resultInParts = request.result ∧
      request.outcome.mapError Failure.outOfRange = request.answer := by
  have hchecks := request.checks_result
  exact ⟨hchecks.reported_eq_ok_iff, hchecks.reported_eq_error,
    request.resultInParts_eq_result, request.mapError_outcome⟩

end Request
end TextCoordinates
