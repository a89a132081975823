import TableAssembler.Text.CodePoint

/-!
# White space

The characters with the `White_Space` property.  Inside a line every one of them separates, except
the line feed, which ends the line.
-/

namespace TableAssembler
namespace Text

/-- White space from code point 128 upwards. -/
def whiteSpaceIntervals : List (Nat × Nat) :=
  [(0x85, 0x85), (0xa0, 0xa0), (0x1680, 0x1680), (0x2000, 0x200a), (0x2028, 0x2029),
    (0x202f, 0x202f), (0x205f, 0x205f), (0x3000, 0x3000)]

/-- Tabs, line breaks, the space, and the white space outside ASCII. -/
def isWhiteSpace (c : Char) : Bool :=
  if c.toNat < 128 then
    c == ' ' || (decide (9 ≤ c.toNat) && decide (c.toNat ≤ 13))
  else
    covers whiteSpaceIntervals c.toNat

/-- White space that does not end the line. -/
def isBlank (c : Char) : Bool :=
  isWhiteSpace c && c != '\n'

@[simp]
theorem isBlank_newline : isBlank '\n' = false := rfl

/-- A text without the white space at its two ends. -/
def trim (text : List Char) : List Char :=
  ((text.dropWhile isWhiteSpace).reverse.dropWhile isWhiteSpace).reverse

end Text
end TableAssembler
