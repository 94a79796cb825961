/-!
# Places in a text

A `Mark` counts the bytes before a place, the lines before it, and the characters before
it on its line. All three count from zero; lines and characters are shown counted from
one.

* `Mark.pass` is the place after one more character of the line, `Mark.passAll` after some.
* `Mark.nextLine` is the start of the next line.
-/

namespace ApiStubs
namespace Yaml

/-- A place in a text. -/
structure Mark where
  offset : Nat
  line : Nat
  column : Nat
  deriving DecidableEq, Repr

namespace Mark

/-- The place before the first character. -/
def start : Mark := ⟨0, 0, 0⟩

/-- The place after one more character of the same line. -/
def pass (m : Mark) (c : Char) : Mark := ⟨m.offset + c.utf8Size, m.line, m.column + 1⟩

/-- The place after some more characters of the same line. -/
def passAll (m : Mark) (chars : List Char) : Mark := chars.foldl pass m

/-- The start of the next line, after a line break of the character `c` and `tail` more,
which are line feeds. -/
def nextLine (m : Mark) (c : Char) (tail : Nat) : Mark :=
  ⟨m.offset + c.utf8Size + tail, m.line + 1, 0⟩

/-- Whether a place is the very first one. -/
def isFirst (m : Mark) : Bool := m.line == 0 && m.column == 0

/-- Whether two places have the same line and column. -/
def meets (m n : Mark) : Bool := m.line == n.line && m.column == n.column

/-- A place in words. -/
def text (m : Mark) : String :=
  "line " ++ toString (m.line + 1) ++ " column " ++ toString (m.column + 1)

/-- A place as the end of a message, which leaves the very first one unsaid. -/
def suffix (m : Mark) : String := if m.isFirst then "" else " at " ++ m.text

end Mark
end Yaml
end ApiStubs
