import TextCoordinates.Failure

/-!
# Requirements

A requirement is an inequality that an argument must satisfy, with the name that the
caller knows the argument by.  A list of requirements is checked from the front, and
the first one that fails is reported.
-/

namespace TextCoordinates

inductive Requirement where
  /-- The argument is not below zero. -/
  | nonnegative (parameter : Text) (value : Int)
  /-- The argument is one of the numbers from zero up to and without the limit. -/
  | below (parameter : Text) (value limit : Int)
  /-- The argument is one of the numbers from zero up to and with the limit. -/
  | upTo (parameter : Text) (value limit : Int)
  /-- The argument has at least one entry. -/
  | inhabited (parameter : Text) (length : Nat)
deriving DecidableEq

namespace Requirement

def Holds : Requirement → Prop
  | nonnegative _ value => 0 ≤ value
  | below _ value limit => 0 ≤ value ∧ value < limit
  | upTo _ value limit => 0 ≤ value ∧ value ≤ limit
  | inhabited _ length => 1 ≤ length

instance : DecidablePred Holds
  | nonnegative _ value => inferInstanceAs (Decidable (0 ≤ value))
  | below _ value limit => inferInstanceAs (Decidable (0 ≤ value ∧ value < limit))
  | upTo _ value limit => inferInstanceAs (Decidable (0 ≤ value ∧ value ≤ limit))
  | inhabited _ length => inferInstanceAs (Decidable (1 ≤ length))

def parameter : Requirement → Text
  | nonnegative parameter _ => parameter
  | below parameter _ _ => parameter
  | upTo parameter _ _ => parameter
  | inhabited parameter _ => parameter

/-- The number that is compared; for an argument with entries, how many it has. -/
def value : Requirement → Int
  | nonnegative _ value => value
  | below _ value _ => value
  | upTo _ value _ => value
  | inhabited _ length => length

/-- The inequality as it is written, with the limit as a number. -/
def inequality : Requirement → Text
  | nonnegative parameter _ => parameter ++ " >= 0"
  | below parameter _ limit => "0 <= " ++ parameter ++ " < " ++ Text.Decimal.ofInt limit
  | upTo parameter _ limit => "0 <= " ++ parameter ++ " <= " ++ Text.Decimal.ofInt limit
  | inhabited parameter _ => "len(" ++ parameter ++ ") >= 1"

/-!
## The first one that fails
-/

def FirstFailing (requirements : List Requirement) (failing : Requirement) : Prop :=
  ∃ before after, requirements = before ++ failing :: after ∧
    (∀ requirement ∈ before, requirement.Holds) ∧ ¬ failing.Holds

theorem firstFailing_head {failing : Requirement} (h : ¬ failing.Holds)
    (after : List Requirement) : FirstFailing (failing :: after) failing := by
  refine ⟨[], after, rfl, ?_, h⟩
  intro requirement hrequirement
  cases hrequirement

theorem firstFailing_cons {requirement failing : Requirement} {rest : List Requirement}
    (h : requirement.Holds) (hrest : FirstFailing rest failing) :
    FirstFailing (requirement :: rest) failing := by
  rcases hrest with ⟨before, after, hsplit, hbefore, hfailing⟩
  refine ⟨requirement :: before, after, ?_, ?_, hfailing⟩
  · rw [hsplit]
    rfl
  · intro other hother
    cases hother with
    | head =>
        exact h
    | tail _ hother =>
        exact hbefore other hother

theorem FirstFailing.not_all {requirements : List Requirement} {failing : Requirement}
    (h : FirstFailing requirements failing) :
    ¬ ∀ requirement ∈ requirements, requirement.Holds := by
  rcases h with ⟨before, after, hsplit, _hbefore, hfailing⟩
  intro hall
  apply hfailing
  apply hall
  rw [hsplit]
  exact List.mem_append_right before List.mem_cons_self

end Requirement

/-!
## Reports

A report agrees with a requirement if all that it says is what the requirement says.
The report and its diagnostic say it twice.
-/

namespace OutOfRange

structure Reports (report : OutOfRange) (requirement : Requirement) : Prop where
  parameter_eq : report.parameter = requirement.parameter
  value_eq : report.value = requirement.value
  bound_eq : report.bound = requirement.inequality
  diagnosed : ∃ diagnostic, report.notice = .diagnosed diagnostic ∧
    diagnostic.argument = some report.parameter ∧
    diagnostic.received = some (Text.Decimal.ofInt report.value) ∧
    diagnostic.expected = some report.bound ∧
    report.message = (Diagnostic.Formatter.mk .rust false).render diagnostic

end OutOfRange

namespace Violation

/-- The requirement that fails when an argument is outside its range. -/
def requirement : Violation → Requirement
  | spanBound name value => .nonnegative name value
  | spanLength length => .nonnegative "length" length
  | lineNumber number count => .below "line_number" number count
  | position place size => .upTo "position" place size
  | emptyTable => .inhabited "lines" 0
  | contextLines count => .nonnegative "context_lines" count

theorem parameter_requirement (violation : Violation) :
    violation.requirement.parameter = violation.parameter := by
  cases violation <;> rfl

theorem value_requirement (violation : Violation) :
    violation.requirement.value = violation.value := by
  cases violation <;> rfl

theorem inequality_requirement (violation : Violation) :
    violation.requirement.inequality = violation.bound := by
  cases violation <;> rfl

theorem report_reports (violation : Violation) :
    violation.report.Reports violation.requirement := by
  constructor
  · rw [report_parameter, parameter_requirement]
  · rw [value_requirement]
    rfl
  · rw [report_bound, inequality_requirement]
  · exact ⟨violation.diagnostic, rfl, rfl, rfl, rfl, rfl⟩

end Violation
end TextCoordinates
