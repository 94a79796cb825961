import ApiStubs.Text.CodePoints

/-!
# Blanks

The Unicode characters that are white space, line ends among them.
-/

namespace ApiStubs
namespace Text

/-- The code points of blanks. -/
def blankRanges : Array (Nat × Nat) := #[
  (0x9, 0xD), (0x20, 0x20), (0x85, 0x85), (0xA0, 0xA0), (0x1680, 0x1680), (0x2000, 0x200A),
  (0x2028, 0x2029), (0x202F, 0x202F), (0x205F, 0x205F), (0x3000, 0x3000)]

/-- Whether a character is a blank. -/
def isBlank (c : Char) : Bool := inRanges blankRanges c.toNat

/-- A text without the blanks at its end. -/
def dropTrailingBlanks (text : List Char) : List Char :=
  (text.reverse.dropWhile isBlank).reverse

/-- A text without the blanks at its ends. -/
def trimBlanks (text : List Char) : List Char :=
  dropTrailingBlanks (text.dropWhile isBlank)

end Text
end ApiStubs
