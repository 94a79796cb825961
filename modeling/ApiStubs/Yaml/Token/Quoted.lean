import ApiStubs.Text.Digits
import ApiStubs.Yaml.Source
import ApiStubs.Yaml.Token.Folding

/-!
# Quoted scalars

Between single quotes, a quote is written twice, and all else stands for itself.
Between double quotes, a backslash starts an escape: a letter for a character, `x`,
`u` or `U` with two, four or eight hexadecimal digits for any character, or a line
break, which is left out together with the blanks at the start of the next line.

Line breaks are folded. A document indicator cannot stand at the start of a line,
since the document would end there.

`Quoted.pieceAt` reads the next piece of a quoted scalar, and `Quoted.scanFrom` joins
the pieces up to the closing quote.
-/

namespace ApiStubs
namespace Yaml
namespace Quoted

/-- The character for which a letter stands after a backslash. -/
def escape? : Char → Option Char
  | '0' => some '\x00'
  | 'a' => some '\x07'
  | 'b' => some '\x08'
  | 't' => some '\t'
  | '\t' => some '\t'
  | 'n' => some '\n'
  | 'v' => some '\x0b'
  | 'f' => some '\x0c'
  | 'r' => some '\r'
  | 'e' => some '\x1b'
  | ' ' => some ' '
  | '"' => some '"'
  | '/' => some '/'
  | '\\' => some '\\'
  | 'N' => some '\u0085'
  | '_' => some '\u00a0'
  | 'L' => some '\u2028'
  | 'P' => some '\u2029'
  | _ => none

/-- The number of hexadecimal digits that have to follow a letter after a backslash. -/
def codeLength? : Char → Option Nat
  | 'x' => some 2
  | 'u' => some 4
  | 'U' => some 8
  | _ => none

/-- The number that some hexadecimal digits spell. -/
def hexNumber? (digits : List Char) : Option Nat :=
  digits.foldlM (fun n d => (Text.hexDigit? d).map (16 * n + ·)) 0

/-- A piece of a quoted scalar. `extra` counts its characters after the first one, and those
after the line break itself where that follows a backslash. -/
inductive Piece where
  | close
  | blank
  | lineBreak (extra : Nat)
  | escapedBreak (b : Char) (extra : Nat)
  | char (c : Char) (extra : Nat)

/-- The character that `count` hexadecimal digits at the start of `rest` spell, after a
backslash and a letter. -/
def codeAt (count : Nat) (since mark : Mark) (blocked : Option Nat) (rest : List Char) :
    Except Fault Piece := do
  let fault p := Fault.within .parsingQuotedScalar since p mark
  need blocked count rest
  let digits := rest.take count
  if digits.length < count then .error (fault .expectedHexadecimal)
  else
    match hexNumber? digits with
    | none => .error (fault .expectedHexadecimal)
    | some code =>
      match Text.charOf? code with
      | none => .error (fault .invalidCharacterCode)
      | some c => .ok (.char c (1 + count))

/-- The piece after a backslash. -/
def escapeAt (since mark : Mark) (blocked : Option Nat) (rest : List Char) :
    Except Fault Piece :=
  let unknown := Except.error (Fault.within .parsingQuotedScalar since .unknownEscape mark)
  match rest with
  | [] => unknown
  | e :: after =>
    if isBreak e then do
      need blocked 2 rest
      .ok (.escapedBreak e (breakTail e after))
    else
      match escape? e, codeLength? e with
      | some c, _ => .ok (.char c 1)
      | none, some count => codeAt count since (mark.passAll ['\\', e]) blocked after
      | none, none => unknown

/-- The piece that starts with `c`, no blank and no line break, inside a line. -/
def wordAt (double : Bool) (since mark : Mark) (blocked : Option Nat) (c : Char)
    (after : List Char) : Except Fault Piece :=
  if double then
    if c == '"' then .ok .close
    else if c == '\\' then escapeAt since mark blocked after
    else .ok (.char c 0)
  else if c == '\x27' then
    if atClass (· == '\x27') after then .ok (.char c 1) else .ok .close
  else .ok (.char c 0)

/-- The piece that starts with `c`. After a gap, a document indicator may be ahead. -/
def pieceAt (double : Bool) (since mark : Mark) (blocked : Option Nat) (inGap : Bool)
    (c : Char) (after : List Char) : Except Fault Piece := do
  if isBlank c then
    need blocked (if inGap then 1 else 2) (c :: after)
    .ok .blank
  else if isBreak c then
    need blocked 2 (c :: after)
    .ok (.lineBreak (breakTail c after))
  else
    need blocked (if inGap then 4 else 2) (c :: after)
    if mark.column = 0 ∧ atDocumentIndicator (c :: after) then
      .error (.within .scanningQuotedScalar since .documentIndicator mark)
    else wordAt double since mark blocked c after

/-- Scans the rest of a quoted scalar with its closing quote. `taken` is the text so
far, from the end, and `gap` what has been met since the last word. -/
def scanFrom (double : Bool) (since : Mark) (blocked : Option Nat) (taken : List Char)
    (gap : Gap) (mark : Mark) : List Char → Except Fault (List Char × Cursor)
  | [] => do
    need blocked 1 []
    .error (.within .scanningQuotedScalar since .endOfStream mark)
  | c :: after =>
    match pieceAt double since mark blocked gap.isOpen c after with
    | .error fault => .error fault
    | .ok .close => .ok ((gap.text ++ taken).reverse, ⟨mark.pass c, after, blocked⟩)
    | .ok .blank =>
      scanFrom double since blocked taken (gap.addBlank c) (mark.pass c) after
    | .ok (.lineBreak extra) =>
      scanFrom double since blocked taken (gap.addBreak c) (mark.nextLine c extra)
        (after.drop extra)
    | .ok (.escapedBreak b extra) =>
      scanFrom double since blocked (gap.text ++ taken) .escaped
        ((mark.pass c).nextLine b extra) (after.drop (1 + extra))
    | .ok (.char d extra) =>
      scanFrom double since blocked (d :: (gap.text ++ taken)) .none
        (mark.passAll (c :: after.take extra)) (after.drop extra)
termination_by rest => rest.length
decreasing_by all_goals simp only [List.length_cons, List.length_drop]; omega

/-- Scans a quoted scalar, whose opening quote is still ahead. -/
def scan (double : Bool) (c : Cursor) : Except Fault (List Char × Cursor) := do
  let inside := c.skip 1
  inside.need 4
  scanFrom double c.mark c.blocked [] .none inside.mark inside.rest

end Quoted
end Yaml
end ApiStubs
