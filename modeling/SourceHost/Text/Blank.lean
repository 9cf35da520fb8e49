/-!
# Blanks

The characters that separate words without being seen: the property White_Space of Unicode.
-/

set_option autoImplicit false

namespace SourceHost

/-- A blank. -/
def isBlank (c : Char) : Bool :=
  let n := c.toNat
  (9 ≤ n && n ≤ 13) || n == 0x20 || n == 0x85 || n == 0xA0 || n == 0x1680
    || (0x2000 ≤ n && n ≤ 0x200A) || n == 0x2028 || n == 0x2029 || n == 0x202F || n == 0x205F
    || n == 0x3000

/-- A text without the blanks at its front. -/
def skipBlanks (s : List Char) : List Char := s.dropWhile isBlank

/-- A text without the blanks at its front and at its end. -/
def trimBlanks (s : List Char) : List Char := (skipBlanks (skipBlanks s).reverse).reverse

end SourceHost
