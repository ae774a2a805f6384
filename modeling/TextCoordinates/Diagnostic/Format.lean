import TextCoordinates.Diagnostic.Basic
import TextCoordinates.Json.Printer

/-!
# Formatting diagnostics

A diagnostic is written in one of three styles: with its notes on lines below the
message, as one line, or as a JSON object.  Only the first style knows colors, and
it colors the severity word alone.
-/

namespace TextCoordinates
namespace Diagnostic

inductive Style where
  | rust
  | simple
  | json
deriving DecidableEq

namespace Style

def all : List Style :=
  [rust, simple, json]

def name : Style → Text
  | rust => "RUST"
  | simple => "SIMPLE"
  | json => "JSON"

def value : Style → Text
  | rust => "rust"
  | simple => "simple"
  | json => "json"

def ofValue? (value : Text) : Option Style :=
  all.find? fun style => style.value = value

theorem ofValue?_value (style : Style) : ofValue? style.value = some style := by
  cases style <;> rfl

end Style

structure Formatter where
  style : Style := .rust
  color : Bool := false
deriving DecidableEq

/-!
## The style with notes

The header names severity, code and message.  Below it stand the argument, the
accepted range, the received value and the hint, as far as there is something to
show: a received value is shown even if it is empty, the others are not.
-/

namespace Severity

/-- Bold red for an error, bold yellow for a warning. -/
def colorSequence : Severity → Text
  | error => "\x1b[1;31m"
  | warning => "\x1b[1;33m"

def resetSequence : Text := "\x1b[0m"

def shown (color : Bool) (severity : Severity) : Text :=
  if color then severity.colorSequence ++ severity.word ++ resetSequence else severity.word

end Severity

def label (diagnostic : Diagnostic) : Text :=
  '[' :: diagnostic.code.name ++ "]: " ++ diagnostic.message

def header (color : Bool) (diagnostic : Diagnostic) : Text :=
  diagnostic.severityClass.shown color ++ diagnostic.label

def note (topic content : Text) : Text :=
  "  = " ++ topic ++ ": " ++ content

def notes (diagnostic : Diagnostic) : List Text :=
  [ (present diagnostic.argument).map (note "argument"),
    (present diagnostic.expected).map (note "expected"),
    diagnostic.received.map (note "received"),
    (present diagnostic.hint).map (note "help") ].filterMap id

def rows (color : Bool) (diagnostic : Diagnostic) : List Text :=
  diagnostic.header color :: diagnostic.notes

def renderNoted (color : Bool) (diagnostic : Diagnostic) : Text :=
  Text.joinRows (diagnostic.rows color)

/-!
## The one-line style
-/

def renderSimple (diagnostic : Diagnostic) : Text :=
  diagnostic.code.name ++ ": " ++ diagnostic.message

/-!
## The JSON style

The severity is written as the word it was given as.  Optional members follow the
same rule as the notes.
-/

def member (name content : Text) : Text × Json :=
  (name, .string content)

def optionalMembers (diagnostic : Diagnostic) : List (Text × Json) :=
  [ (present diagnostic.argument).map (member "argument_name"),
    diagnostic.received.map (member "received_value"),
    (present diagnostic.expected).map (member "expected"),
    (present diagnostic.hint).map (member "hint") ].filterMap id

def members (diagnostic : Diagnostic) : List (Text × Json) :=
  member "code" diagnostic.code.name
    :: ("code_value", .int diagnostic.code.number)
    :: member "message" diagnostic.message
    :: member "severity" diagnostic.severity
    :: diagnostic.optionalMembers

def renderJson (diagnostic : Diagnostic) : Text :=
  (Json.object diagnostic.members).print

/-!
## Formatters
-/

namespace Formatter

def render (formatter : Formatter) (diagnostic : Diagnostic) : Text :=
  match formatter.style with
  | .rust => diagnostic.renderNoted formatter.color
  | .simple => diagnostic.renderSimple
  | .json => diagnostic.renderJson

/-- An empty row stands between two diagnostics. -/
def renderAll (formatter : Formatter) (diagnostics : List Diagnostic) : Text :=
  Text.joinBlocks (diagnostics.map formatter.render)

theorem renderAll_singleton (formatter : Formatter) (diagnostic : Diagnostic) :
    formatter.renderAll [diagnostic] = formatter.render diagnostic := by
  simp [renderAll, Text.joinBlocks]

end Formatter

/-- The text of a diagnostic on its own: with notes and without color. -/
def text (diagnostic : Diagnostic) : Text :=
  diagnostic.renderNoted false

end Diagnostic
end TextCoordinates
