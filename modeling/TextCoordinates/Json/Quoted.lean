import TextCoordinates.Text.Quoted

/-!
# JSON strings

A string stands in double quotes.  The quote and the backslash are written after
a backslash, five control characters as a letter, every other character below the
space by its code, and all else as it is.  The reader also accepts the escapes
that the writer never uses.
-/

namespace TextCoordinates
namespace Json
namespace Quoted

def escape (c : Char) : Text :=
  if c = '"' ∨ c = '\\' then ['\\', c]
  else if c = '\n' then ['\\', 'n']
  else if c = '\r' then ['\\', 'r']
  else if c = '\t' then ['\\', 't']
  else if c = '\x08' then ['\\', 'b']
  else if c = '\x0c' then ['\\', 'f']
  else if c.toNat < 0x20 then ['\\', 'u'] ++ Text.hexPadded 4 c.toNat
  else [c]

def escapeAll (text : Text) : Text :=
  text.flatMap escape

def write (text : Text) : Text :=
  '"' :: escapeAll text ++ ['"']

/-!
## Reading

The reader works on what follows the opening quote and answers with the codes of
the string and with the text after the closing quote.  An escape may give half of
a surrogate pair, so the codes become characters in a second step.
-/

def hexValue? (c : Char) : Option Nat :=
  if '0' ≤ c ∧ c ≤ '9' then some (c.toNat - '0'.toNat)
  else if 'a' ≤ c ∧ c ≤ 'f' then some (c.toNat - 'a'.toNat + 10)
  else if 'A' ≤ c ∧ c ≤ 'F' then some (c.toNat - 'A'.toNat + 10)
  else none

def hexCode? (a b c d : Char) : Option Nat := do
  let a ← hexValue? a
  let b ← hexValue? b
  let c ← hexValue? c
  let d ← hexValue? d
  pure (((a * 16 + b) * 16 + c) * 16 + d)

/-- The character that a letter after a backslash stands for. -/
def letter? : Char → Option Char
  | '"' => some '"'
  | '\\' => some '\\'
  | '/' => some '/'
  | 'n' => some '\n'
  | 'r' => some '\r'
  | 't' => some '\t'
  | 'b' => some '\x08'
  | 'f' => some '\x0c'
  | _ => none

/-- Puts one code in front of the codes that were read. -/
def withCode (code : Nat) (result : Option (List Nat × Text)) : Option (List Nat × Text) :=
  result.map fun (codes, rest) => (code :: codes, rest)

def readCodes : Text → Option (List Nat × Text)
  | '\\' :: 'u' :: a :: b :: c :: d :: rest => do
      let code ← hexCode? a b c d
      withCode code (readCodes rest)
  | '\\' :: c :: rest => do
      let letter ← letter? c
      withCode letter.toNat (readCodes rest)
  | '"' :: rest => some ([], rest)
  | c :: rest =>
      if c = '\\' ∨ c.toNat < 0x20 then none else withCode c.toNat (readCodes rest)
  | [] => none

/-!
## Codes and characters

A code from the first surrogate range and the next code, if it is from the second
range, stand for one character.  A surrogate on its own stands for none, and is
replaced.
-/

def isHighSurrogate (code : Nat) : Bool :=
  0xd800 ≤ code && code < 0xdc00

def isLowSurrogate (code : Nat) : Bool :=
  0xdc00 ≤ code && code < 0xe000

def replacement : Char := '\ufffd'

def charOfCode (code : Nat) : Char :=
  if isHighSurrogate code || isLowSurrogate code then replacement else Char.ofNat code

def charOfPair (high low : Nat) : Char :=
  Char.ofNat (0x10000 + (high - 0xd800) * 0x400 + (low - 0xdc00))

def ofCodes : List Nat → Text
  | [] => []
  | [code] => [charOfCode code]
  | code :: next :: rest =>
      if isHighSurrogate code && isLowSurrogate next then
        charOfPair code next :: ofCodes rest
      else
        charOfCode code :: ofCodes (next :: rest)

def read (text : Text) : Option (Text × Text) :=
  (readCodes text).map fun (codes, rest) => (ofCodes codes, rest)

/-!
## Reading back

A written character is read as its code, and the codes of characters are no
surrogates, so reading restores every string.
-/

theorem not_surrogate (c : Char) :
    isHighSurrogate c.toNat = false ∧ isLowSurrogate c.toNat = false := by
  have hvalid : c.toNat < 0xd800 ∨ 0xdfff < c.toNat ∧ c.toNat < 0x110000 := c.valid
  simp only [isHighSurrogate, isLowSurrogate, Bool.and_eq_false_iff, decide_eq_false_iff_not]
  omega

theorem charOfCode_toNat (c : Char) : charOfCode c.toNat = c := by
  have hc := not_surrogate c
  simp [charOfCode, hc.1, hc.2]

theorem ofCodes_map_toNat (text : Text) : ofCodes (text.map Char.toNat) = text := by
  induction text with
  | nil =>
      rfl
  | cons c rest ih =>
      cases rest with
      | nil =>
          simp [ofCodes, charOfCode_toNat]
      | cons next rest =>
          have hc := not_surrogate c
          simp only [List.map_cons] at ih
          simp [ofCodes, hc.1, charOfCode_toNat, ih]

theorem hexCode?_hexPadded {n : Nat} (h : n < 0x20) :
    ∃ a b c d, Text.hexPadded 4 n = [a, b, c, d] ∧ hexCode? a b c d = some n := by
  have hall : ∀ n < 0x20, hexCode? (Text.hexDigit (n / 16 / 16 / 16 % 16))
      (Text.hexDigit (n / 16 / 16 % 16)) (Text.hexDigit (n / 16 % 16))
      (Text.hexDigit (n % 16)) = some n := by decide
  exact ⟨_, _, _, _, rfl, hall n h⟩

theorem readCodes_letter {c letter : Char} (hu : c ≠ 'u') (h : letter? c = some letter)
    (rest : Text) :
    readCodes ('\\' :: c :: rest) = withCode letter.toNat (readCodes rest) := by
  rw [readCodes]
  · simp [h]
  · intro a b c' d rest' hc
    exact absurd hc hu

theorem readCodes_plain {c : Char} (hquote : c ≠ '"') (hslash : c ≠ '\\')
    (hcode : ¬ c.toNat < 0x20) (rest : Text) :
    readCodes (c :: rest) = withCode c.toNat (readCodes rest) := by
  rw [readCodes]
  · simp [hslash, hcode]
  · intro a b c' d rest' hc
    exact absurd hc hslash
  · intro c' rest' hc
    exact absurd hc hslash
  · exact hquote

theorem readCodes_code {c : Char} (h : c.toNat < 0x20) (rest : Text) :
    readCodes (['\\', 'u'] ++ Text.hexPadded 4 c.toNat ++ rest) =
      withCode c.toNat (readCodes rest) := by
  rcases hexCode?_hexPadded h with ⟨a, b, c', d, hdigits, hcode⟩
  rw [hdigits]
  simp [readCodes, hcode]

theorem readCodes_escape (c : Char) (rest : Text) :
    readCodes (escape c ++ rest) = withCode c.toNat (readCodes rest) := by
  unfold escape
  split
  · rename_i h
    rcases h with rfl | rfl
    · exact readCodes_letter (by decide) rfl rest
    · exact readCodes_letter (by decide) rfl rest
  · rename_i hplain
    rw [not_or] at hplain
    split
    · rename_i h
      subst h
      exact readCodes_letter (by decide) rfl rest
    · split
      · rename_i h
        subst h
        exact readCodes_letter (by decide) rfl rest
      · split
        · rename_i h
          subst h
          exact readCodes_letter (by decide) rfl rest
        · split
          · rename_i h
            subst h
            exact readCodes_letter (by decide) rfl rest
          · split
            · rename_i h
              subst h
              exact readCodes_letter (by decide) rfl rest
            · split
              · rename_i h
                exact readCodes_code h rest
              · rename_i h
                exact readCodes_plain hplain.1 hplain.2 h rest

@[simp] theorem escapeAll_cons (c : Char) (text : Text) :
    escapeAll (c :: text) = escape c ++ escapeAll text := by
  simp [escapeAll]

theorem readCodes_escapeAll (text rest : Text) :
    readCodes (escapeAll text ++ '"' :: rest) = some (text.map Char.toNat, rest) := by
  induction text with
  | nil =>
      simp [escapeAll, readCodes]
  | cons c text ih =>
      simp [readCodes_escape, ih, withCode]

theorem read_escapeAll (text rest : Text) :
    read (escapeAll text ++ '"' :: rest) = some (text, rest) := by
  simp [read, readCodes_escapeAll, ofCodes_map_toNat]

end Quoted
end Json
end TextCoordinates
