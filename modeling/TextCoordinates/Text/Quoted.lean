import TextCoordinates.Text.Hidden

/-!
# Quoted names

A name that a message repeats stands in single quotes, or in double quotes if it
holds a single quote and no double quote.  The quote in use and the backslash are
written after a backslash, a line feed, carriage return or tab as a letter, and
every other hidden character by its code.
-/

namespace TextCoordinates
namespace Text

def hexDigit (n : Nat) : Char :=
  if n < 10 then Char.ofNat ('0'.toNat + n) else Char.ofNat ('a'.toNat + (n - 10))

/-- The last `width` hexadecimal digits of a number, leading zeros included. -/
def hexPadded : Nat → Nat → Text
  | 0, _ => []
  | width + 1, n => hexPadded width (n / 16) ++ [hexDigit (n % 16)]

namespace Quoted

def codeEscape (code : Nat) : Text :=
  if code < 0x100 then ['\\', 'x'] ++ hexPadded 2 code
  else if code < 0x10000 then ['\\', 'u'] ++ hexPadded 4 code
  else ['\\', 'U'] ++ hexPadded 8 code

def escape (quote c : Char) : Text :=
  if c = quote ∨ c = '\\' then ['\\', c]
  else if c = '\n' then ['\\', 'n']
  else if c = '\r' then ['\\', 'r']
  else if c = '\t' then ['\\', 't']
  else if isHidden c then codeEscape c.toNat
  else [c]

def quoteFor (name : Text) : Char :=
  if '\'' ∈ name ∧ '"' ∉ name then '"' else '\''

end Quoted

def quoted (name : Text) : Text :=
  let quote := Quoted.quoteFor name
  quote :: name.flatMap (Quoted.escape quote) ++ [quote]

example : quoted "it's" = "\"it's\"" := by decide
example : quoted "a\n\\'\"" = "'a\\n\\\\\\'\"'" := by decide

end Text
end TextCoordinates
