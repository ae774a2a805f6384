import TextCoordinates.Json.Basic
import TextCoordinates.Json.Quoted
import TextCoordinates.Text.Decimal

/-!
# Reading JSON

The readers follow the grammar of JSON.  Each takes one piece off the front of a
text and answers with it and with the text that is left.  A value nests no deeper
than its text is long, so the length of the text bounds the descent.
-/

namespace TextCoordinates
namespace Json

def isBlank (c : Char) : Bool :=
  c = ' ' || c = '\n' || c = '\r' || c = '\t'

def skipBlanks (text : Text) : Text :=
  text.dropWhile isBlank

/-!
## Numbers

A whole part has no leading zero; a fraction and an exponent have at least one
digit.
-/

def readDigits (text : Text) : Option (Text × Text) :=
  let digits := text.takeWhile Char.isDigit
  if digits = [] then none else some (digits, text.dropWhile Char.isDigit)

def readWhole (text : Text) : Option (Text × Text) := do
  let (digits, rest) ← readDigits text
  if digits.head? = some '0' ∧ digits ≠ ['0'] then none else pure (digits, rest)

def readFraction : Text → Option (Text × Text)
  | '.' :: rest => readDigits rest
  | rest => some ([], rest)

def readSign : Text → Bool × Text
  | '-' :: rest => (true, rest)
  | '+' :: rest => (false, rest)
  | rest => (false, rest)

def signed (negative : Bool) (digits : Text) : Int :=
  let value : Int := Nat.ofDigitChars 10 digits 0
  if negative then -value else value

def readExponent (text : Text) : Option (Option Int × Text) :=
  match text with
  | [] => some (none, [])
  | c :: rest =>
      if c = 'e' ∨ c = 'E' then do
        let (negative, rest) := readSign rest
        let (digits, rest) ← readDigits rest
        pure (some (signed negative digits), rest)
      else
        some (none, text)

def readNumber (text : Text) : Option (Json × Text) := do
  let (negative, rest) := match text with
    | '-' :: rest => (true, rest)
    | rest => (false, rest)
  let (whole, rest) ← readWhole rest
  let (fraction, rest) ← readFraction rest
  let (exponent, rest) ← readExponent rest
  match fraction, exponent with
  | [], none => pure (int (signed negative whole), rest)
  | _, _ =>
      pure (decimal negative (Nat.ofDigitChars 10 (whole ++ fraction) 0)
        (exponent.getD 0 - fraction.length), rest)

/-!
## Values
-/

mutual

def readValue : Nat → Text → Option (Json × Text)
  | 0, _ => none
  | fuel + 1, text =>
      match skipBlanks text with
      | 'n' :: 'u' :: 'l' :: 'l' :: rest => some (null, rest)
      | 't' :: 'r' :: 'u' :: 'e' :: rest => some (bool true, rest)
      | 'f' :: 'a' :: 'l' :: 's' :: 'e' :: rest => some (bool false, rest)
      | '"' :: rest => do
          let (text, rest) ← Quoted.read rest
          pure (string text, rest)
      | '[' :: rest =>
          match skipBlanks rest with
          | ']' :: rest => some (array [], rest)
          | rest => do
              let (items, rest) ← readItems fuel rest
              pure (array items, rest)
      | '{' :: rest =>
          match skipBlanks rest with
          | '}' :: rest => some (object [], rest)
          | rest => do
              let (members, rest) ← readMembers fuel rest
              pure (object members, rest)
      | text => readNumber text

/-- One item or more, up to the closing bracket. -/
def readItems : Nat → Text → Option (List Json × Text)
  | 0, _ => none
  | fuel + 1, text => do
      let (item, rest) ← readValue fuel text
      match skipBlanks rest with
      | ',' :: rest => do
          let (items, rest) ← readItems fuel rest
          pure (item :: items, rest)
      | ']' :: rest => pure ([item], rest)
      | _ => none

/-- One member or more, up to the closing brace. -/
def readMembers : Nat → Text → Option (List (Text × Json) × Text)
  | 0, _ => none
  | fuel + 1, text =>
      match skipBlanks text with
      | '"' :: rest => do
          let (name, rest) ← Quoted.read rest
          match skipBlanks rest with
          | ':' :: rest => do
              let (value, rest) ← readValue fuel rest
              match skipBlanks rest with
              | ',' :: rest => do
                  let (members, rest) ← readMembers fuel rest
                  pure ((name, value) :: members, rest)
              | '}' :: rest => pure ([(name, value)], rest)
              | _ => none
          | _ => none
      | _ => none

end

/-- A text is one value with nothing but blanks around it. -/
def read (text : Text) : Option Json := do
  let (value, rest) ← readValue (2 * text.length + 2) text
  if skipBlanks rest = [] then pure value else none

end Json
end TextCoordinates
