import TextCoordinates.Text.Basic

/-!
# Cases of letters

Letters have a lower-case form and a form in which they start a word.  Most forms
are single letters and most letters pair up, so the forms are listed as rows of the
alphabets; a few letters open into several.  A character that is in no row is its
own form.
-/

namespace TextCoordinates
namespace Text

/-!
## Rows of letters

A row sends `count` letters, starting at `source`, to as many letters starting at
`target`.  Both run in steps of `stride`: it is one where an alphabet keeps its
cases apart, and two where they alternate.
-/

structure LetterRow where
  source : Nat
  target : Nat
  count : Nat
  stride : Nat

namespace LetterRow

/-- The row that sends the letters back. -/
def back (row : LetterRow) : LetterRow :=
  ⟨row.target, row.source, row.count, row.stride⟩

def image? (row : LetterRow) (code : Nat) : Option Nat :=
  let distance := code - row.source
  if row.source ≤ code ∧ distance % row.stride = 0 ∧ distance / row.stride < row.count then
    some (row.target + distance)
  else
    none

theorem back_back (row : LetterRow) : row.back.back = row := rfl

end LetterRow

/-- The letters that are each other's forms, from lower case to the start of a word. -/
def pairedRows : List LetterRow :=
  [ ⟨0x61, 0x41, 26, 1⟩, ⟨0xe0, 0xc0, 23, 1⟩, ⟨0xf8, 0xd8, 7, 1⟩, ⟨0xff, 0x178, 1, 1⟩,
    ⟨0x101, 0x100, 24, 2⟩, ⟨0x133, 0x132, 3, 2⟩, ⟨0x13a, 0x139, 8, 2⟩, ⟨0x14b, 0x14a, 23, 2⟩,
    ⟨0x17a, 0x179, 3, 2⟩, ⟨0x180, 0x243, 1, 1⟩, ⟨0x183, 0x182, 2, 2⟩, ⟨0x188, 0x187, 1, 1⟩,
    ⟨0x18c, 0x18b, 1, 1⟩, ⟨0x192, 0x191, 1, 1⟩, ⟨0x195, 0x1f6, 1, 1⟩, ⟨0x199, 0x198, 1, 1⟩,
    ⟨0x19a, 0x23d, 1, 1⟩, ⟨0x19e, 0x220, 1, 1⟩, ⟨0x1a1, 0x1a0, 3, 2⟩, ⟨0x1a8, 0x1a7, 1, 1⟩,
    ⟨0x1ad, 0x1ac, 1, 1⟩, ⟨0x1b0, 0x1af, 1, 1⟩, ⟨0x1b4, 0x1b3, 2, 2⟩, ⟨0x1b9, 0x1b8, 1, 1⟩,
    ⟨0x1bd, 0x1bc, 1, 1⟩, ⟨0x1bf, 0x1f7, 1, 1⟩, ⟨0x1c6, 0x1c5, 1, 1⟩, ⟨0x1c9, 0x1c8, 1, 1⟩,
    ⟨0x1cc, 0x1cb, 9, 2⟩, ⟨0x1dd, 0x18e, 1, 1⟩, ⟨0x1df, 0x1de, 9, 2⟩, ⟨0x1f3, 0x1f2, 2, 2⟩,
    ⟨0x1f9, 0x1f8, 20, 2⟩, ⟨0x223, 0x222, 9, 2⟩, ⟨0x23c, 0x23b, 1, 1⟩, ⟨0x23f, 0x2c7e, 2, 1⟩,
    ⟨0x242, 0x241, 1, 1⟩, ⟨0x247, 0x246, 5, 2⟩, ⟨0x250, 0x2c6f, 1, 1⟩, ⟨0x251, 0x2c6d, 1, 1⟩,
    ⟨0x252, 0x2c70, 1, 1⟩, ⟨0x253, 0x181, 1, 1⟩, ⟨0x254, 0x186, 1, 1⟩, ⟨0x256, 0x189, 2, 1⟩,
    ⟨0x259, 0x18f, 1, 1⟩, ⟨0x25b, 0x190, 1, 1⟩, ⟨0x25c, 0xa7ab, 1, 1⟩, ⟨0x260, 0x193, 1, 1⟩,
    ⟨0x261, 0xa7ac, 1, 1⟩, ⟨0x263, 0x194, 1, 1⟩, ⟨0x265, 0xa78d, 1, 1⟩, ⟨0x266, 0xa7aa, 1, 1⟩,
    ⟨0x268, 0x197, 1, 1⟩, ⟨0x269, 0x196, 1, 1⟩, ⟨0x26a, 0xa7ae, 1, 1⟩, ⟨0x26b, 0x2c62, 1, 1⟩,
    ⟨0x26c, 0xa7ad, 1, 1⟩, ⟨0x26f, 0x19c, 1, 1⟩, ⟨0x271, 0x2c6e, 1, 1⟩, ⟨0x272, 0x19d, 1, 1⟩,
    ⟨0x275, 0x19f, 1, 1⟩, ⟨0x27d, 0x2c64, 1, 1⟩, ⟨0x280, 0x1a6, 1, 1⟩, ⟨0x282, 0xa7c5, 1, 1⟩,
    ⟨0x283, 0x1a9, 1, 1⟩, ⟨0x287, 0xa7b1, 1, 1⟩, ⟨0x288, 0x1ae, 1, 1⟩, ⟨0x289, 0x244, 1, 1⟩,
    ⟨0x28a, 0x1b1, 2, 1⟩, ⟨0x28c, 0x245, 1, 1⟩, ⟨0x292, 0x1b7, 1, 1⟩, ⟨0x29d, 0xa7b2, 1, 1⟩,
    ⟨0x29e, 0xa7b0, 1, 1⟩, ⟨0x371, 0x370, 2, 2⟩, ⟨0x377, 0x376, 1, 1⟩, ⟨0x37b, 0x3fd, 3, 1⟩,
    ⟨0x3ac, 0x386, 1, 1⟩, ⟨0x3ad, 0x388, 3, 1⟩, ⟨0x3b1, 0x391, 17, 1⟩, ⟨0x3c3, 0x3a3, 9, 1⟩,
    ⟨0x3cc, 0x38c, 1, 1⟩, ⟨0x3cd, 0x38e, 2, 1⟩, ⟨0x3d7, 0x3cf, 1, 1⟩, ⟨0x3d9, 0x3d8, 12, 2⟩,
    ⟨0x3f2, 0x3f9, 1, 1⟩, ⟨0x3f3, 0x37f, 1, 1⟩, ⟨0x3f8, 0x3f7, 1, 1⟩, ⟨0x3fb, 0x3fa, 1, 1⟩,
    ⟨0x430, 0x410, 32, 1⟩, ⟨0x450, 0x400, 16, 1⟩, ⟨0x461, 0x460, 17, 2⟩, ⟨0x48b, 0x48a, 27, 2⟩,
    ⟨0x4c2, 0x4c1, 7, 2⟩, ⟨0x4cf, 0x4c0, 1, 1⟩, ⟨0x4d1, 0x4d0, 48, 2⟩, ⟨0x561, 0x531, 38, 1⟩,
    ⟨0x13f8, 0x13f0, 6, 1⟩, ⟨0x1d79, 0xa77d, 1, 1⟩, ⟨0x1d7d, 0x2c63, 1, 1⟩,
    ⟨0x1d8e, 0xa7c6, 1, 1⟩, ⟨0x1e01, 0x1e00, 75, 2⟩, ⟨0x1ea1, 0x1ea0, 48, 2⟩,
    ⟨0x1f00, 0x1f08, 8, 1⟩, ⟨0x1f10, 0x1f18, 6, 1⟩, ⟨0x1f20, 0x1f28, 8, 1⟩,
    ⟨0x1f30, 0x1f38, 8, 1⟩, ⟨0x1f40, 0x1f48, 6, 1⟩, ⟨0x1f51, 0x1f59, 4, 2⟩,
    ⟨0x1f60, 0x1f68, 8, 1⟩, ⟨0x1f70, 0x1fba, 2, 1⟩, ⟨0x1f72, 0x1fc8, 4, 1⟩,
    ⟨0x1f76, 0x1fda, 2, 1⟩, ⟨0x1f78, 0x1ff8, 2, 1⟩, ⟨0x1f7a, 0x1fea, 2, 1⟩,
    ⟨0x1f7c, 0x1ffa, 2, 1⟩, ⟨0x1f80, 0x1f88, 8, 1⟩, ⟨0x1f90, 0x1f98, 8, 1⟩,
    ⟨0x1fa0, 0x1fa8, 8, 1⟩, ⟨0x1fb0, 0x1fb8, 2, 1⟩, ⟨0x1fb3, 0x1fbc, 1, 1⟩,
    ⟨0x1fc3, 0x1fcc, 1, 1⟩, ⟨0x1fd0, 0x1fd8, 2, 1⟩, ⟨0x1fe0, 0x1fe8, 2, 1⟩,
    ⟨0x1fe5, 0x1fec, 1, 1⟩, ⟨0x1ff3, 0x1ffc, 1, 1⟩, ⟨0x214e, 0x2132, 1, 1⟩,
    ⟨0x2170, 0x2160, 16, 1⟩, ⟨0x2184, 0x2183, 1, 1⟩, ⟨0x24d0, 0x24b6, 26, 1⟩,
    ⟨0x2c30, 0x2c00, 48, 1⟩, ⟨0x2c61, 0x2c60, 1, 1⟩, ⟨0x2c65, 0x23a, 1, 1⟩,
    ⟨0x2c66, 0x23e, 1, 1⟩, ⟨0x2c68, 0x2c67, 3, 2⟩, ⟨0x2c73, 0x2c72, 1, 1⟩,
    ⟨0x2c76, 0x2c75, 1, 1⟩, ⟨0x2c81, 0x2c80, 50, 2⟩, ⟨0x2cec, 0x2ceb, 2, 2⟩,
    ⟨0x2cf3, 0x2cf2, 1, 1⟩, ⟨0x2d00, 0x10a0, 38, 1⟩, ⟨0x2d27, 0x10c7, 1, 1⟩,
    ⟨0x2d2d, 0x10cd, 1, 1⟩, ⟨0xa641, 0xa640, 23, 2⟩, ⟨0xa681, 0xa680, 14, 2⟩,
    ⟨0xa723, 0xa722, 7, 2⟩, ⟨0xa733, 0xa732, 31, 2⟩, ⟨0xa77a, 0xa779, 2, 2⟩,
    ⟨0xa77f, 0xa77e, 5, 2⟩, ⟨0xa78c, 0xa78b, 1, 1⟩, ⟨0xa791, 0xa790, 2, 2⟩,
    ⟨0xa794, 0xa7c4, 1, 1⟩, ⟨0xa797, 0xa796, 10, 2⟩, ⟨0xa7b5, 0xa7b4, 8, 2⟩,
    ⟨0xa7c8, 0xa7c7, 2, 2⟩, ⟨0xa7d1, 0xa7d0, 1, 1⟩, ⟨0xa7d7, 0xa7d6, 2, 2⟩,
    ⟨0xa7f6, 0xa7f5, 1, 1⟩, ⟨0xab53, 0xa7b3, 1, 1⟩, ⟨0xab70, 0x13a0, 80, 1⟩,
    ⟨0xff41, 0xff21, 26, 1⟩, ⟨0x10428, 0x10400, 40, 1⟩, ⟨0x104d8, 0x104b0, 36, 1⟩,
    ⟨0x10597, 0x10570, 19, 2⟩, ⟨0x10598, 0x10571, 5, 2⟩, ⟨0x105a4, 0x1057d, 7, 2⟩,
    ⟨0x105b4, 0x1058d, 3, 2⟩, ⟨0x105bc, 0x10595, 1, 1⟩, ⟨0x10cc0, 0x10c80, 51, 1⟩,
    ⟨0x118c0, 0x118a0, 32, 1⟩, ⟨0x16e60, 0x16e40, 32, 1⟩, ⟨0x1e922, 0x1e900, 34, 1⟩ ]

/-- The letters whose form at the start of a word has another lower-case form. -/
def startRows : List LetterRow :=
  [ ⟨0xb5, 0x39c, 1, 1⟩, ⟨0x131, 0x49, 1, 1⟩, ⟨0x17f, 0x53, 1, 1⟩, ⟨0x1c4, 0x1c5, 1, 1⟩,
    ⟨0x1c7, 0x1c8, 1, 1⟩, ⟨0x1ca, 0x1cb, 1, 1⟩, ⟨0x1f1, 0x1f2, 1, 1⟩, ⟨0x345, 0x399, 1, 1⟩,
    ⟨0x3c2, 0x3a3, 1, 1⟩, ⟨0x3d0, 0x392, 1, 1⟩, ⟨0x3d1, 0x398, 1, 1⟩, ⟨0x3d5, 0x3a6, 1, 1⟩,
    ⟨0x3d6, 0x3a0, 1, 1⟩, ⟨0x3f0, 0x39a, 1, 1⟩, ⟨0x3f1, 0x3a1, 1, 1⟩, ⟨0x3f5, 0x395, 1, 1⟩,
    ⟨0x1c80, 0x412, 1, 1⟩, ⟨0x1c81, 0x414, 1, 1⟩, ⟨0x1c82, 0x41e, 1, 1⟩, ⟨0x1c83, 0x421, 2, 1⟩,
    ⟨0x1c85, 0x422, 1, 1⟩, ⟨0x1c86, 0x42a, 1, 1⟩, ⟨0x1c87, 0x462, 1, 1⟩, ⟨0x1c88, 0xa64a, 1, 1⟩,
    ⟨0x1e9b, 0x1e60, 1, 1⟩, ⟨0x1fbe, 0x399, 1, 1⟩ ]

/-- The letters whose lower-case form starts a word in another way. -/
def lowerRows : List LetterRow :=
  [ ⟨0x1c4, 0x1c6, 1, 1⟩, ⟨0x1c7, 0x1c9, 1, 1⟩, ⟨0x1ca, 0x1cc, 1, 1⟩, ⟨0x1f1, 0x1f3, 1, 1⟩,
    ⟨0x3f4, 0x3b8, 1, 1⟩, ⟨0x1c90, 0x10d0, 43, 1⟩, ⟨0x1cbd, 0x10fd, 3, 1⟩, ⟨0x1e9e, 0xdf, 1, 1⟩,
    ⟨0x2126, 0x3c9, 1, 1⟩, ⟨0x212a, 0x6b, 1, 1⟩, ⟨0x212b, 0xe5, 1, 1⟩ ]

/-- The letters that start a word as several. -/
def startExpansions : List (Nat × List Nat) :=
  [ (0xdf, [0x53, 0x73]), (0x149, [0x2bc, 0x4e]), (0x1f0, [0x4a, 0x30c]),
    (0x390, [0x399, 0x308, 0x301]), (0x3b0, [0x3a5, 0x308, 0x301]), (0x587, [0x535, 0x582]),
    (0x1e96, [0x48, 0x331]), (0x1e97, [0x54, 0x308]), (0x1e98, [0x57, 0x30a]),
    (0x1e99, [0x59, 0x30a]), (0x1e9a, [0x41, 0x2be]), (0x1f50, [0x3a5, 0x313]),
    (0x1f52, [0x3a5, 0x313, 0x300]), (0x1f54, [0x3a5, 0x313, 0x301]),
    (0x1f56, [0x3a5, 0x313, 0x342]), (0x1fb2, [0x1fba, 0x345]), (0x1fb4, [0x386, 0x345]),
    (0x1fb6, [0x391, 0x342]), (0x1fb7, [0x391, 0x342, 0x345]), (0x1fc2, [0x1fca, 0x345]),
    (0x1fc4, [0x389, 0x345]), (0x1fc6, [0x397, 0x342]), (0x1fc7, [0x397, 0x342, 0x345]),
    (0x1fd2, [0x399, 0x308, 0x300]), (0x1fd3, [0x399, 0x308, 0x301]), (0x1fd6, [0x399, 0x342]),
    (0x1fd7, [0x399, 0x308, 0x342]), (0x1fe2, [0x3a5, 0x308, 0x300]),
    (0x1fe3, [0x3a5, 0x308, 0x301]), (0x1fe4, [0x3a1, 0x313]), (0x1fe6, [0x3a5, 0x342]),
    (0x1fe7, [0x3a5, 0x308, 0x342]), (0x1ff2, [0x1ffa, 0x345]), (0x1ff4, [0x38f, 0x345]),
    (0x1ff6, [0x3a9, 0x342]), (0x1ff7, [0x3a9, 0x342, 0x345]), (0xfb00, [0x46, 0x66]),
    (0xfb01, [0x46, 0x69]), (0xfb02, [0x46, 0x6c]), (0xfb03, [0x46, 0x66, 0x69]),
    (0xfb04, [0x46, 0x66, 0x6c]), (0xfb05, [0x53, 0x74]), (0xfb06, [0x53, 0x74]),
    (0xfb13, [0x544, 0x576]), (0xfb14, [0x544, 0x565]), (0xfb15, [0x544, 0x56b]),
    (0xfb16, [0x54e, 0x576]), (0xfb17, [0x544, 0x56d]) ]

/-- The letters whose lower-case form is several. -/
def lowerExpansions : List (Nat × List Nat) :=
  [ (0x130, [0x69, 0x307]) ]

/-!
## Forms
-/

def form (expansions : List (Nat × List Nat)) (rows : List LetterRow) (c : Char) : Text :=
  match expansions.lookup c.toNat with
  | some codes => codes.map Char.ofNat
  | none =>
      match rows.findSome? (·.image? c.toNat) with
      | some code => [Char.ofNat code]
      | none => [c]

/-- The letters by which a word that begins with this letter starts. -/
def startForm (c : Char) : Text :=
  if c.toNat < 0x80 then [c.toUpper] else form startExpansions (pairedRows ++ startRows) c

def lowerForm (c : Char) : Text :=
  if c.toNat < 0x80 then [c.toLower]
  else form lowerExpansions (pairedRows.map LetterRow.back ++ lowerRows) c

theorem startForm_of_ascii {c : Char} (h : c.toNat < 0x80) : startForm c = [c.toUpper] := by
  simp [startForm, h]

theorem lowerForm_of_ascii {c : Char} (h : c.toNat < 0x80) : lowerForm c = [c.toLower] := by
  simp [lowerForm, h]

end Text
end TextCoordinates
