import PinkyLex.Text.CodeSet

namespace PinkyLex.Text

/-!
# White space

The characters with the Unicode property White_Space.  A line made of nothing
else counts as blank.
-/

namespace WhiteSpace

/-- Boundaries of the white space from U+0009 to U+3000. -/
def boundaries : List Nat :=
  [0x9, 0xe, 0x20, 0x21, 0x85, 0x86, 0xa0, 0xa1, 0x1680, 0x1681, 0x2000, 0x200b, 0x2028, 0x202a,
   0x202f, 0x2030, 0x205f, 0x2060, 0x3000, 0x3001]

end WhiteSpace

/-- Whether a character has the property White_Space. -/
def isWhiteSpace (character : Char) : Bool :=
  CodeSet.contains WhiteSpace.boundaries character.toNat

end PinkyLex.Text
