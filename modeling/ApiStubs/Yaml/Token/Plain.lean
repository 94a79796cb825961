import ApiStubs.Yaml.Source
import ApiStubs.Yaml.Token.Folding

/-!
# Plain scalars

A plain scalar has no quotes. It ends before a colon with a gap after it, before a
`#` with a gap before it, before a document indicator at the start of a line, and in
a flow collection before a flow indicator. In a block collection it also ends where a
line is indented too little. Line breaks are folded, and the gap at the end is no part
of the scalar, though it has been passed.

`Plain.pieceAt` reads the next piece of a plain scalar, and `Plain.scanFrom` joins
the pieces.
-/

namespace ApiStubs
namespace Yaml
namespace Plain

/-- Where a plain scalar stands: inside a flow collection or not, and how far its lines
have to be indented in the latter case. -/
structure Setting where
  inFlow : Bool
  indent : Nat
  since : Mark
  blocked : Option Nat

/-- A scanned plain scalar. `broken` says whether a line break follows its last word. -/
structure Scanned where
  text : List Char
  broken : Bool
  cursor : Cursor

/-- A piece of a plain scalar. `extra` counts its characters after the first one. -/
inductive Piece where
  | stop
  | blank
  | lineBreak (extra : Nat)
  | char

/-- The piece that starts with `c`, no blank and no line break, inside a line. -/
def wordAt (s : Setting) (mark : Mark) (c : Char) (after : List Char) : Except Fault Piece :=
  if s.inFlow && c == ':' && atClass (fun d => isFlowIndicator d || d == '?') after then
    .error (.within .scanningPlainScalar s.since .colonInFlowScalar mark)
  else if c == ':' && atGap after || s.inFlow && isFlowIndicator c then .ok .stop
  else .ok .char

/-- The piece that starts with `c`, after a gap or inside a line. -/
def pieceAt (s : Setting) (gap : Gap) (mark : Mark) (c : Char) (after : List Char) :
    Except Fault Piece := do
  if isBlank c then
    need s.blocked (if gap.isOpen then 1 else 2) (c :: after)
    if gap.broken && mark.column < s.indent && c == '\t' then
      .error (.within .scanningPlainScalar s.since .tabViolatesIndentation mark)
    else .ok .blank
  else if isBreak c then
    need s.blocked 2 (c :: after)
    .ok (.lineBreak (breakTail c after))
  else if gap.isOpen then
    -- A new line has begun, which may belong to something else.
    if ! s.inFlow && mark.column < s.indent then .ok .stop
    else
      need s.blocked 4 (c :: after)
      if mark.column = 0 ∧ atDocumentIndicator (c :: after) ∨ c = '#' then .ok .stop
      else wordAt s mark c after
  else
    need s.blocked 2 (c :: after)
    wordAt s mark c after

/-- Scans the rest of a plain scalar. `taken` is the text so far, from the end, and
`gap` what has been met since the last word. -/
def scanFrom (s : Setting) (taken : List Char) (gap : Gap) (mark : Mark) :
    List Char → Except Fault Scanned
  | [] => do
    need s.blocked 1 []
    .ok ⟨taken.reverse, gap.broken, ⟨mark, [], s.blocked⟩⟩
  | c :: after =>
    match pieceAt s gap mark c after with
    | .error fault => .error fault
    | .ok .stop => .ok ⟨taken.reverse, gap.broken, ⟨mark, c :: after, s.blocked⟩⟩
    | .ok .blank => scanFrom s taken (gap.addBlank c) (mark.pass c) after
    | .ok (.lineBreak extra) =>
      scanFrom s taken (gap.addBreak c) (mark.nextLine c extra) (after.drop extra)
    | .ok .char => scanFrom s (c :: (gap.text ++ taken)) .none (mark.pass c) after
termination_by rest => rest.length
decreasing_by all_goals simp only [List.length_cons, List.length_drop]; omega

/-- Scans a plain scalar. -/
def scan (inFlow : Bool) (indent : Nat) (c : Cursor) : Except Fault Scanned := do
  c.need 4
  scanFrom ⟨inFlow, indent, c.mark, c.blocked⟩ [] .none c.mark c.rest

end Plain
end Yaml
end ApiStubs
