import ApiStubs.Text.Digits
import ApiStubs.Yaml.Source
import ApiStubs.Yaml.Token

/-!
# Tags and anchors

A tag is written in one of three ways: `!<text>` stands for its text, `!handle!rest`
for the text of a handle followed by the rest, and `!rest` for the handle `!` and the
rest. `Tag.scan` yields the handle, which is empty for the first way, and the rest.
A lone `!` has no handle, and its text is `!`.

In the rest, `%` and two hexadecimal digits spell a byte. The bytes have to follow
the pattern of UTF-8 as far as the number of trailing bytes goes.
-/

namespace ApiStubs
namespace Yaml

namespace Tag

/-- The part of a tag up to its first zero byte. -/
def untilZero (bytes : TagText) : TagText := bytes.takeWhile (· != 0)

/-- The bytes of a string of characters. -/
def bytesOf (chars : List Char) : TagText := chars.flatMap String.utf8EncodeChar

/-- The number of bytes in the pattern that a byte begins, none for a byte that
begins no pattern. -/
def patternWidth (octet : Nat) : Nat :=
  if octet < 0x80 then 1
  else if 0xC0 ≤ octet ∧ octet < 0xE0 then 2
  else if 0xE0 ≤ octet ∧ octet < 0xF0 then 3
  else if 0xF0 ≤ octet ∧ octet < 0xF8 then 4
  else 0

/-- Scans the characters of a class and escaped bytes. `pending` is the number of
bytes that the current pattern still lacks, and `bytes` holds what came before, from
the end. -/
def scanBytes (allowed : Char → Bool) (activity : Activity) (since : Mark)
    (blocked : Option Nat) (pending : Nat) (bytes : TagText) (mark : Mark) :
    List Char → Except Fault (TagText × Cursor)
  | '%' :: h :: l :: rest => do
    let fault p := Fault.within activity since p mark
    match Text.hexDigit? h, Text.hexDigit? l with
    | some high, some low =>
      let octet := 16 * high + low
      let pending ←
        if pending = 0 then
          match patternWidth octet with
          | 0 => .error (fault .badLeadingOctet)
          | width + 1 => .ok width
        else if 0x80 ≤ octet ∧ octet < 0xC0 then .ok (pending - 1)
        else .error (fault .badTrailingOctet)
      scanBytes allowed activity since blocked pending (octet.toUInt8 :: bytes)
        (mark.passAll ['%', h, l]) rest
    | _, _ => .error (fault .expectedUriOctet)
  | c :: rest =>
    if c = '%' ∨ pending ≠ 0 then do
      need blocked 3 (c :: rest)
      .error (.within activity since .expectedUriOctet mark)
    else if allowed c then
      scanBytes allowed activity since blocked 0 (c.toNat.toUInt8 :: bytes)
        (mark.pass c) rest
    else .ok (bytes.reverse, ⟨mark, c :: rest, blocked⟩)
  | [] => do
    need blocked 1 []
    if pending ≠ 0 then .error (.within activity since .expectedUriOctet mark)
    else .ok (bytes.reverse, ⟨mark, [], blocked⟩)

/-- Scans a part of a tag that has to hold at least one byte. -/
def scanUri (allowed : Char → Bool) (activity : Activity) (since : Mark) (c : Cursor) :
    Except Fault (TagText × Cursor) := do
  c.need 1
  let (bytes, c) ← scanBytes allowed activity since c.blocked 0 [] c.mark c.rest
  if bytes.isEmpty then .error (.within activity since .expectedTagUri c.mark)
  else .ok (untilZero bytes, c)

/-- Scans `!`, the word after it, and a second `!` if one follows. -/
def scanHandle (activity : Activity) (since : Mark) (c : Cursor) :
    Except Fault (List Char × Cursor) := do
  c.need 1
  if atClass (· == '!') c.rest then
    let (word, c) := (c.skip 1).span isWord
    c.need 1
    if atClass (· == '!') c.rest then .ok ('!' :: word ++ ['!'], c.skip 1)
    else .ok ('!' :: word, c)
  else .error (.within activity since .expectedExclamation c.mark)

/-- Whether a handle has a second `!`. -/
def isClosed (handle : List Char) : Bool := handle.length > 1 && handle.getLast? == some '!'

/-- Scans the handle and the rest of a tag. -/
def scanParts (c : Cursor) : Except Fault ((List Char × TagText) × Cursor) := do
  let since := c.mark
  if atClass (· == '<') (c.rest.drop 1) then
    let (bytes, c) ← scanUri isVerbatimUri .parsingTag since (c.skip 2)
    if atClass (· == '>') c.rest then .ok (([], bytes), c.skip 1)
    else .error (.within .scanningTag since .expectedClosingAngle c.mark)
  else
    let (handle, c) ← scanHandle .scanningTag since c
    if isClosed handle then
      let (bytes, c) ← scanUri isUri .parsingTag since c
      .ok ((handle, bytes), c)
    else
      let (bytes, c) ← scanBytes isUri .parsingTag since c.blocked 0
        (bytesOf handle.tail).reverse c.mark c.rest
      let bytes := untilZero bytes
      .ok (if bytes.isEmpty then ([], bytesOf ['!']) else (['!'], bytes), c)

/-- Scans a tag. A gap has to follow it, or a comma inside a flow collection. -/
def scan (inFlow : Bool) (c : Cursor) : Except Fault (TokenKind × Cursor) := do
  let since := c.mark
  c.need 2
  let (tag, c) ← scanParts c
  c.need 1
  if atGap c.rest || inFlow && atClass (· == ',') c.rest then .ok (.tag tag.1 tag.2, c)
  else .error (.within .scanningTag since .expectedWhitespaceOrBreak c.mark)

end Tag

/-- Scans the name of an anchor or an alias, whose first character is still ahead. -/
def scanAnchorName (activity : Activity) (c : Cursor) : Except Fault (List Char × Cursor) := do
  let (name, after) := (c.skip 1).span isWord
  after.need 1
  let follows := atGap after.rest ||
    atClass ['?', ':', ',', ']', '\x7d', '%', '@', '\x60'].contains after.rest
  if name.isEmpty || ! follows then
    .error (.within activity c.mark .expectedAnchorName after.mark)
  else .ok (name, after)

end Yaml
end ApiStubs
