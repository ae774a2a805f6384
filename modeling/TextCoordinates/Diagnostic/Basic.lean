import TextCoordinates.Diagnostic.Code

/-!
# Diagnostics

A diagnostic says what was rejected and why.  Its message is always there; the
argument's name, the text of the received value, the accepted range and a hint may
be missing.  The severity is any word, of which only "warning" has a meaning of
its own.
-/

namespace TextCoordinates

structure Diagnostic where
  code : Diagnostic.Code
  message : Text
  argument : Option Text := none
  received : Option Text := none
  expected : Option Text := none
  hint : Option Text := none
  severity : Text := "error"
deriving DecidableEq

namespace Diagnostic

/-- An empty text counts as a missing one. -/
def present (field : Option Text) : Option Text :=
  field.filter (· ≠ [])

@[simp] theorem present_none : present none = none := rfl

@[simp] theorem present_some_nil : present (some []) = none := by
  simp [present]

@[simp] theorem present_some_cons (c : Char) (rest : Text) :
    present (some (c :: rest)) = some (c :: rest) := by
  simp [present]

/-!
## Severity classes
-/

inductive Severity where
  | error
  | warning
deriving DecidableEq

namespace Severity

/-- Every word but "warning" is an error. -/
def ofWord (word : Text) : Severity :=
  if word = "warning" then warning else error

def word : Severity → Text
  | error => "error"
  | warning => "warning"

theorem ofWord_word (severity : Severity) : ofWord severity.word = severity := by
  cases severity <;> rfl

end Severity

def severityClass (diagnostic : Diagnostic) : Severity :=
  Severity.ofWord diagnostic.severity

end Diagnostic
end TextCoordinates
