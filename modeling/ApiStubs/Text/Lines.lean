/-!
# Lines of a text

A text is cut into lines at every line feed, and at nothing else: a text with
`n` line feeds has `n + 1` lines, the last of which may be empty.

* `Text.splitLines` cuts a list of characters and `Text.lines` a string.
* `Text.dropTrailing` removes one character from the end as often as it stands
  there.
-/

namespace ApiStubs
namespace Text

/-- Cuts at every line feed. The result is never empty. -/
def splitLines : List Char → List (List Char)
  | [] => [[]]
  | c :: cs =>
    if c = '\n' then [] :: splitLines cs
    else
      match splitLines cs with
      | [] => [[c]]
      | line :: rest => (c :: line) :: rest

/-- The lines of a string. -/
def lines (text : String) : List String :=
  (splitLines text.toList).map String.ofList

/-- Removes `c` from the end, as often as it stands there. -/
def dropTrailing (c : Char) (text : List Char) : List Char :=
  (text.reverse.dropWhile (· == c)).reverse

/-- The text without the line feeds at its end. -/
def withoutFinalLineFeeds (text : String) : String :=
  String.ofList (dropTrailing '\n' text.toList)

/-- A cut text is never empty: the text before the first line feed is a line. -/
theorem splitLines_ne_nil (text : List Char) : splitLines text ≠ [] := by
  cases text with
  | nil => simp [splitLines]
  | cons c cs =>
    rw [splitLines]
    split
    · simp
    · split <;> simp

end Text
end ApiStubs
