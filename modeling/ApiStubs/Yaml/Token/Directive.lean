import ApiStubs.Yaml.Token.Tag

/-!
# Directives

A directive is a line that begins with `%`. Two directives exist: `%YAML` gives a
version as two numbers of at most nine digits each, and `%TAG` gives a tag handle
and the text for which it stands. Blanks and a comment may follow.
-/

namespace ApiStubs
namespace Yaml
namespace Directive

/-- The greatest number of digits in a part of a version. -/
def maxVersionDigits : Nat := 9

/-- The number that some digits spell. -/
def numberOf (digits : List Char) : Nat :=
  digits.foldl (fun n d => 10 * n + (d.toNat - '0'.toNat)) 0

/-- Scans a part of a version. -/
def scanNumber (since : Mark) (c : Cursor) : Except Fault (Nat × Cursor) := do
  let fault p m := Fault.within .scanningVersionDirective since p m
  let (digits, after) := c.span Char.isDigit
  if maxVersionDigits < digits.length then
    .error (fault .versionTooLong (c.mark.passAll (digits.take maxVersionDigits)))
  else
    after.need 1
    if digits.isEmpty then .error (fault .expectedVersion after.mark)
    else .ok (numberOf digits, after)

/-- Scans the version of a `%YAML` directive. -/
def scanVersion (since : Mark) (c : Cursor) : Except Fault (TokenKind × Cursor) := do
  let (major, c) ← scanNumber since (c.skipWhile isBlank)
  if atClass (· == '.') c.rest then
    let (minor, c) ← scanNumber since (c.skip 1)
    .ok (.versionDirective major minor, c)
  else .error (.within .scanningVersionDirective since .expectedDigitOrDot c.mark)

/-- Scans the handle and the text of a `%TAG` directive. -/
def scanTagPair (since : Mark) (c : Cursor) : Except Fault (TokenKind × Cursor) := do
  let fault p m := Fault.within .scanningTagDirective since p m
  let (handle, c) ← Tag.scanHandle .scanningTagDirectiveHandle since (c.skipWhile isBlank)
  if handle ≠ ['!'] ∧ ! Tag.isClosed handle then
    .error (.within .parsingTagDirectiveHandle since .expectedExclamation c.mark)
  else
    c.need 1
    if atClass isBlank c.rest then
      let c := c.skipWhile isBlank
      let (bytes, c) ← Tag.scanUri isVerbatimUri .parsingTagDirectivePrefix since c
      c.need 1
      if atGap c.rest then .ok (.tagDirective handle bytes, c)
      else .error (fault .expectedWhitespaceOrBreak c.mark)
    else .error (fault .expectedWhitespace c.mark)

/-- Scans the name of a directive. -/
def scanName (since : Mark) (c : Cursor) : Except Fault (List Char × Cursor) := do
  let fault p m := Fault.within .scanningDirective since p m
  let (name, c) := c.span isWord
  c.need 1
  if name.isEmpty then .error (fault .expectedDirectiveName c.mark)
  else if ! atGap c.rest then .error (fault .nonAlphabeticCharacter c.mark)
  else .ok (name, c)

/-- Scans a directive with the rest of its line. -/
def scan (c : Cursor) : Except Fault (TokenKind × Cursor) := do
  let since := c.mark
  let (name, c) ← scanName since (c.skip 1)
  let (kind, c) ←
    if name = ['Y', 'A', 'M', 'L'] then scanVersion since c
    else if name = ['T', 'A', 'G'] then scanTagPair since c
    else .error (.within .scanningDirective since .unknownDirectiveName c.mark)
  let c := c.skipRestOfLine
  c.need 1
  if ! atLineEnd c.rest then
    .error (.within .scanningDirective since .expectedCommentOrBreak c.mark)
  else
    if ! c.rest.isEmpty then c.need 2
    .ok (kind, c.skipBreak)

end Directive
end Yaml
end ApiStubs
