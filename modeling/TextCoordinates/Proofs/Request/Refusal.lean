import TextCoordinates.Failure
import TextCoordinates.Proofs.LineMap.RowByRow
import TextCoordinates.Proofs.Span.Checked

/-!
# Refusals

A refusal is given a diagnostic and, beside it, the value that is refused.  The value is
in the diagnostic as well, so every place that refuses an argument states it twice and
could state two different values.  Here the operations are written with each of these
places, those of the operations inside them included.  No place gives a diagnostic of
another value, so each operation answers as before and fails with the report of the same
violation.
-/

namespace TextCoordinates

/-!
## Changing failures

Failures may be changed before results are put together or afterwards.
-/

variable {α β ε δ : Type}

@[simp] theorem mapError_ok (change : ε → δ) (answer : α) :
    (Except.ok answer).mapError change = .ok answer := rfl

@[simp] theorem mapError_error (change : ε → δ) (failure : ε) :
    (Except.error failure : Except ε α).mapError change = .error (change failure) := rfl

theorem mapError_map (change : ε → δ) (f : α → β) (result : Except ε α) :
    (result.map f).mapError change = (result.mapError change).map f := by
  cases result with
  | ok answer =>
      rfl
  | error failure =>
      rfl

theorem mapError_bind (change : ε → δ) (f : α → Except ε β) (result : Except ε α) :
    (result >>= f).mapError change =
      result.mapError change >>= fun answer => (f answer).mapError change := by
  cases result with
  | ok answer =>
      rfl
  | error failure =>
      rfl

theorem Progression.mapError_traverseFrom (change : ε → δ) (f : Int → Except ε α) (step : Int)
    (count : Nat) (term : Int) :
    (traverseFrom f step count term).mapError change =
      traverseFrom (fun term => (f term).mapError change) step count term := by
  induction count generalizing term with
  | zero =>
      rfl
  | succ count ih =>
      simp only [traverseFrom]
      cases f term with
      | error failure =>
          rfl
      | ok first =>
          rw [mapError_ok, ← ih]
          exact mapError_map change (first :: ·) (traverseFrom f step count (term + step))

theorem Progression.mapError_traverse (change : ε → δ) (f : Int → Except ε α)
    (p : Progression) :
    (p.traverse f).mapError change = p.traverse fun term => (f term).mapError change :=
  mapError_traverseFrom change f p.step p.length p.start

/-!
## Refusing an argument
-/

def refuse (violation : Violation) (value : Int) : Except OutOfRange α :=
  .error (.ofNotice (.diagnosed violation.diagnostic) value none none)

theorem refuse_value (violation : Violation) :
    (refuse violation violation.value : Except OutOfRange α) = .error violation.report := rfl

/-- A guard reports its violation if the value beside the diagnostic is the one that the
diagnostic is about. -/
theorem ite_refuse_eq {violation : Violation} {value : Int} (hvalue : value = violation.value)
    {condition : Prop} [Decidable condition] {refusing : Except OutOfRange α}
    {rest : Except Violation α} (hrest : refusing = rest.mapError Violation.report) :
    (if condition then refuse violation value else refusing) =
      (if condition then .error violation else rest).mapError Violation.report := by
  by_cases hcondition : condition
  · rw [if_pos hcondition, if_pos hcondition, hvalue, refuse_value, mapError_error]
  · rw [if_neg hcondition, if_neg hcondition, hrest]

namespace Refusing

/-!
## Spans
-/

def span (start stop : Int) : Except OutOfRange Span :=
  if start < 0 then refuse (.spanBound "start" start) start
  else if stop < 0 then refuse (.spanBound "end" stop) stop
  else .ok (.joining start.toNat stop.toNat)

def spanOfLength (start length : Int) : Except OutOfRange Span :=
  if start < 0 then refuse (.spanBound "start" start) start
  else if length < 0 then refuse (.spanLength length) length
  else span start (start + length)

def emptySpan (offset : Int) : Except OutOfRange Span :=
  if offset < 0 then refuse (.spanBound "at" offset) offset
  else span offset offset

theorem span_eq (start stop : Int) :
    span start stop = (Span.ofBounds start stop).mapError Violation.report := by
  apply ite_refuse_eq rfl
  apply ite_refuse_eq rfl
  rfl

theorem spanOfLength_eq (start length : Int) :
    spanOfLength start length = (Span.ofLength start length).mapError Violation.report := by
  rw [← Span.ofLengthByBounds_eq_ofLength]
  apply ite_refuse_eq rfl
  apply ite_refuse_eq rfl
  exact span_eq start (start + length)

theorem emptySpan_eq (offset : Int) :
    emptySpan offset = (Span.emptyAt offset).mapError Violation.report := by
  rw [← Span.emptyAtByBounds_eq_emptyAt]
  apply ite_refuse_eq rfl
  exact span_eq offset offset

/-!
## Line maps
-/

def lineMap (lines : List Line) : Except OutOfRange LineMap :=
  if h : 0 < lines.length then .ok ⟨lines.toArray, h⟩
  else refuse .emptyTable 0

def line (map : LineMap) (number : Int) : Except OutOfRange Line :=
  match map.line? number with
  | some line => .ok line
  | none => refuse (.lineNumber number map.count) number

def location (map : LineMap) (position : Int) : Except OutOfRange Location :=
  if position < 0 ∨ map.size < position then refuse (.position position map.size) position
  else .ok (map.resolve position)

theorem lineMap_eq (lines : List Line) :
    lineMap lines = (LineMap.ofLines lines).mapError Violation.report := by
  unfold lineMap LineMap.ofLines
  by_cases h : 0 < lines.length
  · rw [dif_pos h, dif_pos h, mapError_ok]
  · rw [dif_neg h, dif_neg h, mapError_error]
    rfl

theorem line_eq (map : LineMap) (number : Int) :
    line map number = (map.line number).mapError Violation.report := by
  unfold line LineMap.line
  cases map.line? number with
  | some line =>
      rfl
  | none =>
      rfl

theorem location_eq (map : LineMap) (position : Int) :
    location map position = (map.locate position).mapError Violation.report := by
  apply ite_refuse_eq rfl
  rfl

/-!
## Maps and their text

Nothing is refused here but by what is asked of the map, except for a number of context
lines below zero.
-/

def formattedPosition (map : LineMap) (position : Int) (numbering : Location.Numbering) :
    Except OutOfRange Text :=
  (location map position).map (·.format numbering)

def lineText (map : LineMap) (text : Text) (number : Int) (keepEnd : Bool) :
    Except OutOfRange Text :=
  (line map number).map fun line => if keepEnd then line.extract text else line.content text

def numberedRows (map : LineMap) (text : Text) (found : Location) (marker : Text)
    (number : Int) : Except OutOfRange (List Text) :=
  (lineText map text number false).map fun row =>
    if number = found.number then [row, LineMap.markerRow found.column marker] else [row]

def excerpt (map : LineMap) (text : Text) (position context : Int) (marker : Text) :
    Except OutOfRange Text :=
  if context < 0 then refuse (.contextLines context) context
  else do
    let found ← location map position
    let rows ← (map.nearbyNumbers found.number context).traverse
      (numberedRows map text found marker)
    pure (Text.joinRows rows.flatten)

theorem formattedPosition_eq (map : LineMap) (position : Int)
    (numbering : Location.Numbering) :
    formattedPosition map position numbering =
      (map.formatPosition position numbering).mapError Violation.report := by
  rw [formattedPosition, location_eq, LineMap.formatPosition, mapError_map]

theorem lineText_eq (map : LineMap) (text : Text) (number : Int) (keepEnd : Bool) :
    lineText map text number keepEnd =
      (map.lineText text number keepEnd).mapError Violation.report := by
  rw [lineText, line_eq, LineMap.lineText, mapError_map]

theorem numberedRows_eq (map : LineMap) (text : Text) (found : Location) (marker : Text)
    (number : Int) :
    numberedRows map text found marker number =
      (map.numberedRows text found marker number).mapError Violation.report := by
  rw [numberedRows, lineText_eq, LineMap.numberedRows, mapError_map]

theorem excerpt_eq (map : LineMap) (text : Text) (position context : Int) (marker : Text) :
    excerpt map text position context marker =
      (map.excerpt text position context marker).mapError Violation.report := by
  rw [← LineMap.excerptByNumber_eq_excerpt]
  apply ite_refuse_eq rfl
  rw [location_eq, mapError_bind]
  congr 1
  funext found
  have hrows : numberedRows map text found marker =
      fun number => (map.numberedRows text found marker number).mapError Violation.report :=
    funext (numberedRows_eq map text found marker)
  rw [hrows, mapError_bind, Progression.mapError_traverse]
  rfl

end Refusing
end TextCoordinates
