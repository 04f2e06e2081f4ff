import Generics.Text.Ranges

/-!
# White space

The characters with the Unicode property `White_Space`, and cutting them off at the ends of a text.

## Main definitions

* `Text.isBlank` and `Text.trim`.
-/

namespace Generics

namespace Text

/-- White space of all scripts. -/
def blankRanges : List (Nat × Nat) :=
  [(0x9, 0xD), (0x20, 0x20), (0x85, 0x85), (0xA0, 0xA0), (0x1680, 0x1680), (0x2000, 0x200A),
   (0x2028, 0x2029), (0x202F, 0x202F), (0x205F, 0x205F), (0x3000, 0x3000)]

/-- The character is white space. -/
def isBlank (ch : Char) : Bool := inRanges blankRanges ch

/-- The characters without the white space at both ends. -/
def trimChars (cs : List Char) : List Char :=
  ((cs.dropWhile isBlank).reverse.dropWhile isBlank).reverse

/-- The text without the white space at both ends. -/
def trim (s : String) : String := String.ofList (trimChars s.toList)

example : trimChars "\u3000 a b\n".toList = "a b".toList := by decide +kernel

end Text

end Generics
