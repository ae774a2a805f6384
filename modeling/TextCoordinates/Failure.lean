import TextCoordinates.Diagnostic.Format
import TextCoordinates.Text.Quoted
import TextCoordinates.Violation

/-!
# Failures

A failure is why an operation has no result.  Most failures report an argument out
of its range and carry a diagnostic; the others are named for their cause.
-/

namespace TextCoordinates

/-!
## Notices

What a failure reports is a plain message or a diagnostic.
-/

inductive Notice where
  | plain (message : Text)
  | diagnosed (diagnostic : Diagnostic)
deriving DecidableEq

namespace Notice

def message : Notice → Text
  | plain message => message
  | diagnosed diagnostic => diagnostic.text

def diagnostic? : Notice → Option Diagnostic
  | plain _ => none
  | diagnosed diagnostic => some diagnostic

end Notice

/-!
## Arguments out of range

The parameter and the bound may be given; otherwise the diagnostic supplies them,
and without one they are empty.
-/

structure OutOfRange where
  notice : Notice
  value : Int
  parameter : Text
  bound : Text
deriving DecidableEq

namespace OutOfRange

def ofNotice (notice : Notice) (value : Int) (parameter bound : Option Text) : OutOfRange where
  notice := notice
  value := value
  parameter := (parameter <|> notice.diagnostic?.bind (·.argument)).getD []
  bound := (bound <|> notice.diagnostic?.bind (·.expected)).getD []

def message (report : OutOfRange) : Text :=
  report.notice.message

end OutOfRange

namespace Violation

def report (violation : Violation) : OutOfRange :=
  .ofNotice (.diagnosed violation.diagnostic) violation.value none none

theorem report_parameter (violation : Violation) :
    violation.report.parameter = violation.parameter := rfl

theorem report_bound (violation : Violation) :
    violation.report.bound = violation.bound := rfl

end Violation

/-!
## All failures
-/

inductive Failure where
  /-- A notice that belongs to no narrower cause. -/
  | general (notice : Notice)
  | outOfRange (report : OutOfRange)
  /-- A value of the named kind stands where a text is needed. -/
  | notText (kind : Text)
  /-- A slice goes nowhere. -/
  | zeroStep
  /-- The line that was searched for does not occur. -/
  | notFound
  | unknownCodeNumber (number : Int)
  | unknownCodeName (name : Text)
  | unknownStyle (value : Text)
deriving DecidableEq

instance : Coe Violation Failure := ⟨fun violation => .outOfRange violation.report⟩

namespace Failure

def message : Failure → Text
  | general notice => notice.message
  | outOfRange report => report.message
  | notText kind => "Expected str, got " ++ kind
  | zeroStep => "slice step cannot be zero"
  | notFound => []
  | unknownCodeNumber number =>
      Text.Decimal.ofInt number ++ " is not a valid DiagnosticCode"
  | unknownCodeName name => name.quoted
  | unknownStyle value => value.quoted ++ " is not a valid OutputFormat"

def notice? : Failure → Option Notice
  | general notice => some notice
  | outOfRange report => some report.notice
  | _ => none

/-!
## Categories

A failure belongs to every category that a guard may be set up for.
-/

inductive Category where
  | mapping
  | outOfRange
  | value
  | index
  | lookup
  | key
  | type
deriving DecidableEq

/-- The narrowest category comes first. -/
def categories : Failure → List Category
  | general _ => [.mapping]
  | outOfRange _ => [.outOfRange, .mapping, .value, .index, .lookup]
  | notText _ => [.type]
  | zeroStep => [.value]
  | notFound => [.value]
  | unknownCodeNumber _ => [.value]
  | unknownCodeName _ => [.key, .lookup]
  | unknownStyle _ => [.value]

def IsA (failure : Failure) (category : Category) : Prop :=
  category ∈ failure.categories

instance (failure : Failure) (category : Category) : Decidable (failure.IsA category) :=
  inferInstanceAs (Decidable (category ∈ failure.categories))

end Failure

/-- A guard for failures of an index holds off every violation. -/
theorem Violation.isA_index (violation : Violation) : Failure.IsA violation .index := by
  simp [Failure.IsA, Failure.categories]

/-!
## Looking up codes and styles by what they are called
-/

namespace Diagnostic

def Code.named (name : Text) : Except Failure Code :=
  match ofName? name with
  | some code => .ok code
  | none => .error (.unknownCodeName name)

def Code.numbered (number : Int) : Except Failure Code :=
  match ofNumber? number with
  | some code => .ok code
  | none => .error (.unknownCodeNumber number)

def Style.valued (value : Text) : Except Failure Style :=
  match ofValue? value with
  | some style => .ok style
  | none => .error (.unknownStyle value)

end Diagnostic
end TextCoordinates
