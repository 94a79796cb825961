import ApiStubs.Yaml.Source
import ApiStubs.Yaml.Token

/-!
# Block scalars

A block scalar is introduced by `|` or `>`, and its lines are indented. After the
indicator there may be a digit, the indentation relative to the enclosing collection,
and a sign for the line breaks at the end: `-` drops them, `+` keeps them, and without
a sign one of them is kept. Without a digit, the first line that is not empty sets the
indentation.

A literal scalar, introduced by `|`, keeps its line breaks. A folded one joins two
lines that both start with no blank: a single line break between them becomes a space.

`Block.Body` is the state of reading the lines character by character, and
`Block.readLines` reads up to the first line that is indented too little.
-/

namespace ApiStubs
namespace Yaml
namespace Block

/-- What becomes of the line breaks at the end. -/
inductive Chomping where
  | strip
  | clip
  | keep
  deriving DecidableEq, Repr

/-- What stands after the indicator. -/
structure Header where
  chomping : Chomping
  increment : Option Nat

/-- The sign for the line breaks at the end. -/
def chomping? : List Char → Option Chomping
  | '+' :: _ => some .keep
  | '-' :: _ => some .strip
  | _ => none

/-- Reads the digit of a header, if one comes next. -/
def readIncrement (since : Mark) (c : Cursor) : Except Fault (Option Nat × Cursor) :=
  match c.rest with
  | d :: _ =>
    if d == '0' then .error (.within .scanningBlockScalar since .zeroIndentation c.mark)
    else if d.isDigit then .ok (some (d.toNat - '0'.toNat), c.skip 1)
    else .ok (none, c)
  | [] => .ok (none, c)

/-- Reads the sign and the digit of a header, in either order. -/
def readHeader (since : Mark) (c : Cursor) : Except Fault (Header × Cursor) := do
  match chomping? c.rest with
  | some chomping =>
    let (increment, c) ← readIncrement since (c.skip 1)
    .ok (⟨chomping, increment⟩, c)
  | none =>
    let (increment, c) ← readIncrement since c
    match increment, chomping? c.rest with
    | some _, some chomping => .ok (⟨chomping, increment⟩, c.skip 1)
    | _, _ => .ok (⟨.clip, increment⟩, c)

/-- Passes the empty lines before the first other one. Yields the line breaks, from the
end, and the greatest column that any of these lines reaches with its indentation. -/
def findIndent (since : Mark) (blocked : Option Nat) (breaks : List Char) (widest : Nat)
    (mark : Mark) : List Char → Except Fault ((List Char × Nat) × Cursor)
  | [] => .ok ((breaks, max widest mark.column), ⟨mark, [], blocked⟩)
  | c :: after =>
    if c = ' ' then findIndent since blocked breaks widest (mark.pass c) after
    else if c = '\t' then
      .error (.within .scanningBlockScalar since .tabForIndentation mark)
    else if isBreak c then
      findIndent since blocked (breakText c :: breaks) (max widest mark.column)
        (mark.nextLine c (breakTail c after)) (after.drop (breakTail c after))
    else .ok ((breaks, max widest mark.column), ⟨mark, c :: after, blocked⟩)
termination_by rest => rest.length
decreasing_by all_goals simp only [List.length_cons, List.length_drop]; omega

/-- What has been read of the lines. All texts are kept from the end. `text` is complete
up to the end of the last line, `lineBreak` is its line break and `empty` are those of
the empty lines after it. `indented` says whether that line starts with a blank, and
`inLine` whether reading is inside of it. -/
structure Body where
  text : List Char
  lineBreak : Option Char
  empty : List Char
  indented : Bool
  inLine : Bool

namespace Body

/-- Before the first line, with the breaks of the empty lines before it. -/
def start (empty : List Char) : Body := ⟨[], none, empty, false, false⟩

/-- Starts the next line with the character `c`, and settles what the line breaks before
it mean. -/
def openLine (b : Body) (folded : Bool) (c : Char) : Body :=
  let joins := folded && b.lineBreak == some '\n' && ! b.indented && ! isBlank c
  let before :=
    if joins then if b.empty.isEmpty then [' '] else b.empty
    else b.empty ++ b.lineBreak.toList
  ⟨c :: (before ++ b.text), none, [], isBlank c, true⟩

/-- One more character of the line. -/
def addChar (b : Body) (c : Char) : Body := { b with text := c :: b.text }

/-- The end of the line, at a line break that starts with `c`. -/
def closeLine (b : Body) (c : Char) : Body :=
  { b with lineBreak := some (breakText c), inLine := false }

/-- An empty line, with a line break that starts with `c`. -/
def addEmpty (b : Body) (c : Char) : Body := { b with empty := breakText c :: b.empty }

/-- The text of the scalar. -/
def result (b : Body) : Chomping → List Char
  | .strip => b.text.reverse
  | .clip => (b.lineBreak.toList ++ b.text).reverse
  | .keep => (b.empty ++ b.lineBreak.toList ++ b.text).reverse

end Body

/-- Reads lines that are indented by `indent`. -/
def readLines (folded : Bool) (indent : Nat) (since : Mark) (blocked : Option Nat)
    (body : Body) (mark : Mark) : List Char → Except Fault (Body × Cursor)
  | [] => .ok (body, ⟨mark, [], blocked⟩)
  | c :: after =>
    if isBreak c then
      readLines folded indent since blocked
        (if body.inLine then body.closeLine c else body.addEmpty c)
        (mark.nextLine c (breakTail c after)) (after.drop (breakTail c after))
    else if body.inLine then
      readLines folded indent since blocked (body.addChar c) (mark.pass c) after
    else if mark.column < indent ∧ c = ' ' then
      readLines folded indent since blocked body (mark.pass c) after
    else if mark.column < indent ∧ c = '\t' then
      .error (.within .scanningBlockScalar since .tabForIndentation mark)
    else if mark.column = indent then
      readLines folded indent since blocked (body.openLine folded c) (mark.pass c) after
    else .ok (body, ⟨mark, c :: after, blocked⟩)
termination_by rest => rest.length
decreasing_by all_goals simp only [List.length_cons, List.length_drop]; omega

/-- Scans a block scalar, whose indicator is still ahead. `parent` is the indentation
of the enclosing collection, none outside of any. -/
def scan (folded : Bool) (parent : Option Nat) (c : Cursor) :
    Except Fault (List Char × Cursor) := do
  let since := c.mark
  let (header, c) ← readHeader since (c.skip 1)
  let c := c.skipRestOfLine
  c.need 1
  if ! atLineEnd c.rest then
    .error (.within .scanningBlockScalar since .expectedCommentOrBreak c.mark)
  else
    if ! c.rest.isEmpty then c.need 2
    let c := c.skipBreak
    let (start, c) ←
      match header.increment with
      -- With a digit, the empty lines at the start are read like all others.
      | some increment => .ok (([], parent.getD 0 + increment), c)
      | none =>
        let ((breaks, widest), c) ← findIndent since c.blocked [] 0 c.mark c.rest
        .ok ((breaks, max widest (max (parent.elim 0 (· + 1)) 1)), c)
    let (body, c) ← readLines folded start.2 since c.blocked (.start start.1) c.mark c.rest
    c.need 1
    .ok (body.result header.chomping, c)

end Block
end Yaml
end ApiStubs
