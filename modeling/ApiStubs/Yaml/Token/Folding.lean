import ApiStubs.Yaml.Chars

/-!
# Folding of line breaks

Between two words of a plain or quoted scalar stand blanks, or line breaks with
blanks around them. Blanks on one line are kept. Of a run of line breaks the first
one is folded: it becomes a space if it is the only one, and vanishes if others
follow, which are kept. The line and paragraph separators are not folded.
-/

namespace ApiStubs
namespace Yaml

/-- What stands between two words. `blanks` are the blanks before any line break, from
the end. `first` is the first line break, and `more` are the others, from the end;
`broken` says whether there has been a line break, an escaped one included, which
leaves no text. -/
structure Gap where
  blanks : List Char
  broken : Bool
  first : Option Char
  more : List Char

namespace Gap

/-- Nothing between two words. -/
def none : Gap := ⟨[], false, Option.none, []⟩

/-- The gap after an escaped line break. -/
def escaped : Gap := ⟨[], true, Option.none, []⟩

/-- Whether anything has been met since the last word. -/
def isOpen (g : Gap) : Bool := g.broken || ! g.blanks.isEmpty

/-- The gap with one more blank. After a line break, blanks are indentation. -/
def addBlank (g : Gap) (c : Char) : Gap :=
  if g.broken then g else { g with blanks := c :: g.blanks }

/-- The gap with one more line break. -/
def addBreak (g : Gap) (c : Char) : Gap :=
  if g.broken then { g with more := breakText c :: g.more }
  else { g with broken := true, first := some (breakText c) }

/-- The text for which the gap stands, from the end. -/
def text (g : Gap) : List Char :=
  if g.broken then
    match g.first with
    | some '\n' => if g.more.isEmpty then [' '] else g.more
    | some c => g.more ++ [c]
    | Option.none => g.more
  else g.blanks

end Gap
end Yaml
end ApiStubs
