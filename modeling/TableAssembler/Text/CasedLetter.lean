import TableAssembler.Text.Letter
import TableAssembler.Text.LetterCase

/-!
# Cased letters

The letters that are capitals, small letters, or in between: the general categories Lu, Ll and Lt.
Most of them have a partner in the other case, and only those without one are stored.
-/

namespace TableAssembler
namespace Text

/-- The characters between upper and lower case. -/
def titleIntervals : List (Nat × Nat) :=
  [(0x1c5, 0x1c5), (0x1c8, 0x1c8), (0x1cb, 0x1cb), (0x1f2, 0x1f2), (0x1f88, 0x1f8f),
    (0x1f98, 0x1f9f), (0x1fa8, 0x1faf), (0x1fbc, 0x1fbc), (0x1fcc, 0x1fcc), (0x1ffc, 0x1ffc)]

/-- The capitals without a partner in lower case. -/
def singleCapitalIntervals : List (Nat × Nat) :=
  [(0x3d2, 0x3d4), (0x2102, 0x2102), (0x2107, 0x2107), (0x210b, 0x210d), (0x2110, 0x2112),
    (0x2115, 0x2115), (0x2119, 0x211d), (0x2124, 0x2124), (0x2128, 0x2128), (0x212c, 0x212d),
    (0x2130, 0x2131), (0x2133, 0x2133), (0x213e, 0x213f), (0x2145, 0x2145), (0x1d400, 0x1d419),
    (0x1d434, 0x1d44d), (0x1d468, 0x1d481), (0x1d49c, 0x1d49c), (0x1d49e, 0x1d49f),
    (0x1d4a2, 0x1d4a2), (0x1d4a5, 0x1d4a6), (0x1d4a9, 0x1d4ac), (0x1d4ae, 0x1d4b5),
    (0x1d4d0, 0x1d4e9), (0x1d504, 0x1d505), (0x1d507, 0x1d50a), (0x1d50d, 0x1d514),
    (0x1d516, 0x1d51c), (0x1d538, 0x1d539), (0x1d53b, 0x1d53e), (0x1d540, 0x1d544),
    (0x1d546, 0x1d546), (0x1d54a, 0x1d550), (0x1d56c, 0x1d585), (0x1d5a0, 0x1d5b9),
    (0x1d5d4, 0x1d5ed), (0x1d608, 0x1d621), (0x1d63c, 0x1d655), (0x1d670, 0x1d689),
    (0x1d6a8, 0x1d6c0), (0x1d6e2, 0x1d6fa), (0x1d71c, 0x1d734), (0x1d756, 0x1d76e),
    (0x1d790, 0x1d7a8), (0x1d7ca, 0x1d7ca)]

/-- The small letters without a partner in upper case. -/
def singleSmallIntervals : List (Nat × Nat) :=
  [(0xdf, 0xdf), (0x138, 0x138), (0x149, 0x149), (0x18d, 0x18d), (0x1aa, 0x1ab), (0x1ba, 0x1ba),
    (0x1be, 0x1be), (0x1f0, 0x1f0), (0x221, 0x221), (0x234, 0x239), (0x255, 0x255), (0x258, 0x258),
    (0x25a, 0x25a), (0x25d, 0x25f), (0x262, 0x262), (0x267, 0x267), (0x26d, 0x26e), (0x270, 0x270),
    (0x273, 0x274), (0x276, 0x27c), (0x27e, 0x27f), (0x281, 0x281), (0x284, 0x286), (0x28d, 0x291),
    (0x293, 0x293), (0x296, 0x29c), (0x29f, 0x2af), (0x390, 0x390), (0x3b0, 0x3b0), (0x3fc, 0x3fc),
    (0x560, 0x560), (0x587, 0x588), (0x1d00, 0x1d2b), (0x1d6b, 0x1d77), (0x1d7a, 0x1d7c),
    (0x1d7e, 0x1d8d), (0x1d8f, 0x1d9a), (0x1e96, 0x1e9a), (0x1e9c, 0x1e9d), (0x1e9f, 0x1e9f),
    (0x1f50, 0x1f50), (0x1f52, 0x1f52), (0x1f54, 0x1f54), (0x1f56, 0x1f56), (0x1fb2, 0x1fb2),
    (0x1fb4, 0x1fb4), (0x1fb6, 0x1fb7), (0x1fc2, 0x1fc2), (0x1fc4, 0x1fc4), (0x1fc6, 0x1fc7),
    (0x1fd2, 0x1fd3), (0x1fd6, 0x1fd7), (0x1fe2, 0x1fe4), (0x1fe6, 0x1fe7), (0x1ff2, 0x1ff2),
    (0x1ff4, 0x1ff4), (0x1ff6, 0x1ff7), (0x210a, 0x210a), (0x210e, 0x210f), (0x2113, 0x2113),
    (0x212f, 0x212f), (0x2134, 0x2134), (0x2139, 0x2139), (0x213c, 0x213d), (0x2146, 0x2149),
    (0x2c71, 0x2c71), (0x2c74, 0x2c74), (0x2c77, 0x2c7b), (0x2ce4, 0x2ce4), (0xa730, 0xa731),
    (0xa771, 0xa778), (0xa78e, 0xa78e), (0xa795, 0xa795), (0xa7af, 0xa7af), (0xa7fa, 0xa7fa),
    (0xab30, 0xab52), (0xab54, 0xab5a), (0xab60, 0xab68), (0xfb00, 0xfb06), (0xfb13, 0xfb17),
    (0x1d41a, 0x1d433), (0x1d44e, 0x1d454), (0x1d456, 0x1d467), (0x1d482, 0x1d49b),
    (0x1d4b6, 0x1d4b9), (0x1d4bb, 0x1d4bb), (0x1d4bd, 0x1d4c3), (0x1d4c5, 0x1d4cf),
    (0x1d4ea, 0x1d503), (0x1d51e, 0x1d537), (0x1d552, 0x1d56b), (0x1d586, 0x1d59f),
    (0x1d5ba, 0x1d5d3), (0x1d5ee, 0x1d607), (0x1d622, 0x1d63b), (0x1d656, 0x1d66f),
    (0x1d68a, 0x1d6a5), (0x1d6c2, 0x1d6da), (0x1d6dc, 0x1d6e1), (0x1d6fc, 0x1d714),
    (0x1d716, 0x1d71b), (0x1d736, 0x1d74e), (0x1d750, 0x1d755), (0x1d770, 0x1d788),
    (0x1d78a, 0x1d78f), (0x1d7aa, 0x1d7c2), (0x1d7c4, 0x1d7c9), (0x1d7cb, 0x1d7cb),
    (0x1df00, 0x1df09), (0x1df0b, 0x1df1e), (0x1df25, 0x1df2a)]

/-- A character between upper and lower case. -/
def isTitleLetter (c : Char) : Bool := covers titleIntervals c.toNat

/-- A capital. -/
def isCapital (c : Char) : Bool :=
  isLetter c && !isTitleLetter c && lowerChar c != c || covers singleCapitalIntervals c.toNat

/-- A small letter. -/
def isSmall (c : Char) : Bool :=
  isLetter c && !isTitleLetter c && upperChar c != c || covers singleSmallIntervals c.toNat

/-! ## Folding -/

/-- The characters that have a partner in another case, but are taken for themselves when case does
not count. -/
def unfoldedIntervals : List (Nat × Nat) := [(0x130, 0x131)]

/-- The characters without a partner in another case that are taken for another character when case
does not count. -/
def foldedIntervals : List (Nat × Nat) :=
  [(0xdf, 0xdf), (0x390, 0x390), (0x3b0, 0x3b0), (0x1fd3, 0x1fd3), (0x1fe3, 0x1fe3),
    (0xfb05, 0xfb06)]

/-- The character is taken for another one when case does not count. -/
def isCased (c : Char) : Bool :=
  (lowerChar c != c || upperChar c != c) && !covers unfoldedIntervals c.toNat ||
    covers foldedIntervals c.toNat

end Text
end TableAssembler
