/-!
# Characters of YAML

The classes of characters by which a YAML text is taken apart. The classes for
names, digits and addresses hold ASCII characters only; a line also ends at the
three line breaks beyond ASCII.

Tests on what comes next take the remaining text: `atGap` holds before a blank,
before a line break and at the end.
-/

namespace ApiStubs
namespace Yaml

/-- A space or a tab. -/
def isBlank (c : Char) : Bool := c == ' ' || c == '\t'

/-- A line break: carriage return, line feed, next line, line separator or paragraph
separator. A carriage return and a line feed are one break together. -/
def isBreak (c : Char) : Bool :=
  c == '\r' || c == '\n' || c == '\u0085' || c == '\u2028' || c == '\u2029'

/-- A blank or a line break. -/
def isGap (c : Char) : Bool := isBlank c || isBreak c

/-- A character of an anchor, a directive name or a tag handle. -/
def isWord (c : Char) : Bool := c.isAlphanum || c == '_' || c == '-'

/-- A character that a tag may hold as it stands, `%` apart. -/
def isUri (c : Char) : Bool :=
  isWord c || [';', '/', '?', ':', '@', '&', '=', '+', '$', '.', '!', '~', '*', '\x27', '(',
    ')'].contains c

/-- A character that a tag may hold between angle brackets only. -/
def isVerbatimUri (c : Char) : Bool := isUri c || c == ',' || c == '[' || c == ']'

/-- One of the five flow indicators. -/
def isFlowIndicator (c : Char) : Bool := [',', '[', ']', '\x7b', '\x7d'].contains c

/-- A character with which no plain scalar starts, unless `-`, `?` or `:` is followed
by more of it. -/
def isIndicator (c : Char) : Bool :=
  isFlowIndicator c || ['-', '?', ':', '#', '&', '*', '!', '|', '>', '\x27', '"', '%', '@',
    '\x60'].contains c

/-- A character that a document may hold: tab, line feed, carriage return, and what
Unicode prints or calls a separator, the byte order mark included. -/
def isAllowed (c : Char) : Bool :=
  let n := c.toNat
  n == 0x09 || n == 0x0A || n == 0x0D || (0x20 ≤ n && n ≤ 0x7E) || n == 0x85 ||
    (0xA0 ≤ n && n ≤ 0xD7FF) || (0xE000 ≤ n && n ≤ 0xFFFD) || 0x10000 ≤ n

/-- Whether the next character is in a class. There is none at the end. -/
def atClass (p : Char → Bool) : List Char → Bool
  | [] => false
  | c :: _ => p c

/-- Whether a blank, a line break or the end comes next. -/
def atGap : List Char → Bool
  | [] => true
  | c :: _ => isGap c

/-- Whether a line break or the end comes next. -/
def atLineEnd : List Char → Bool
  | [] => true
  | c :: _ => isBreak c

/-- Whether a document indicator comes next, `---` or `...` with a gap after it.
It counts as one at the start of a line only. -/
def atDocumentIndicator : List Char → Bool
  | '-' :: '-' :: '-' :: rest => atGap rest
  | '.' :: '.' :: '.' :: rest => atGap rest
  | _ => false

/-- What a line break adds to a scalar: the two separators stand for themselves, and
any other break is a line feed. -/
def breakText (c : Char) : Char :=
  if c == '\u2028' || c == '\u2029' then c else '\n'

/-- The number of characters that belong to a line break besides its first one `c`,
with `rest` after that. -/
def breakTail (c : Char) : List Char → Nat
  | '\n' :: _ => if c == '\r' then 1 else 0
  | _ => 0

end Yaml
end ApiStubs
