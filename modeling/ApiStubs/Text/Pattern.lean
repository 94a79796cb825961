/-!
# Search patterns

A `Pattern` is a regular expression: what a text is searched for. It is taken character by
character, or byte by byte where the switch for characters is off.

* `Pattern.nesting` is the depth of a pattern: each group, set, repetition, sequence and
  choice is a level.
* `Pattern.modeAfter?` says whether a pattern can be searched for without knowing the
  classes and cases of all characters. By characters, no case can then be ignored, and
  neither words nor classes can be told. By bytes they can, but a pattern must not meet
  a byte that is only a part of a character.

Counts in braces are not part of these patterns.
-/

namespace ApiStubs
namespace Text
namespace Pattern

/-- What can be switched on and off within a pattern. -/
inductive Flag where
  /-- Whether upper and lower case are the same. -/
  | ignoresCase
  /-- Whether the ends of lines count as the ends of the text. -/
  | byLines
  /-- Whether a dot stands for line feeds, too. -/
  | dotMeetsBreaks
  /-- Whether repetitions are short where they could be long. -/
  | short
  /-- Whether the text is taken by characters. -/
  | byCharacters
  /-- Whether a line also ends at a carriage return. -/
  | returnBreaks
  /-- Whether blanks and comments in the pattern do not count. -/
  | spaced
  deriving DecidableEq, Repr

/-- Flags, each with what it is switched to. -/
abbrev Switches := List (Flag × Bool)

/-- What a flag is switched to, or what it was. -/
def Switches.get (switches : Switches) (flag : Flag) (before : Bool) : Bool :=
  ((switches.find? (·.1 == flag)).map (·.2)).getD before

/-- A character that stands for itself. Where the text is taken by bytes, two digits of
base 16 spell a byte. -/
structure Literal where
  char : Char
  isByte : Bool
  deriving DecidableEq, Repr

/-- The smallest parts of a pattern. -/
inductive Atom where
  | literal (l : Literal)
  /-- A dot, for any character. -/
  | dot
  /-- The start or the end of a line or of the text. -/
  | edge
  /-- A place that is, or is not, the start or the end of a word. -/
  | wordEdge
  /-- The digits, blanks or letters of words, or all others. -/
  | kind (negated : Bool)
  deriving DecidableEq, Repr

/-- A set of characters. -/
inductive CharSet where
  | literal (l : Literal)
  | range (first last : Literal)
  /-- The digits, blanks or letters of words, or all others. -/
  | kind (negated : Bool)
  /-- A class of ASCII characters that is given by its name, or all others. -/
  | named (negated : Bool)
  /-- A set in brackets, or all that is not in it. -/
  | brackets (negated : Bool) (inner : CharSet)
  | union (sets : List CharSet)
  /-- What is in both sets, or in the first or one of them only. -/
  | combined (left right : CharSet)

end Pattern

/-- A regular expression. -/
inductive Pattern where
  | switch (switches : Pattern.Switches)
  | atom (a : Pattern.Atom)
  | set (s : Pattern.CharSet)
  | repeated (p : Pattern)
  | group (switches : Pattern.Switches) (p : Pattern)
  | sequence (ps : List Pattern)
  | choice (ps : List Pattern)

namespace Pattern

/-! ### Depth -/

/-- The level that several parts make together. One part makes none. -/
def joint (parts : Nat) : Nat := if 1 < parts then 1 else 0

mutual

/-- The depth of a set. -/
def CharSet.nesting : CharSet → Nat
  | .brackets _ inner => inner.nesting + 1
  | .union sets => CharSet.deepest sets + joint sets.length
  | .combined left right => max left.nesting right.nesting + 1
  | .literal _ => 0
  | .range .. => 0
  | .kind _ => 0
  | .named _ => 0

/-- The greatest depth of some sets. -/
def CharSet.deepest : List CharSet → Nat
  | [] => 0
  | s :: rest => max s.nesting (CharSet.deepest rest)

end

mutual

/-- The depth of a pattern. -/
def nesting : Pattern → Nat
  | switch _ => 0
  | atom _ => 0
  | set s => s.nesting
  | repeated p => p.nesting + 1
  | group _ p => p.nesting + 1
  | sequence ps => deepest ps + joint ps.length
  | choice ps => deepest ps + joint ps.length

/-- The greatest depth of some patterns. -/
def deepest : List Pattern → Nat
  | [] => 0
  | p :: rest => max p.nesting (deepest rest)

end

/-! ### What can be searched for -/

/-- The flags on which it depends whether a pattern can be searched for. -/
structure Mode where
  ignoresCase : Bool
  byCharacters : Bool
  deriving DecidableEq, Repr

namespace Mode

/-- The mode at the start of a pattern. -/
def start : Mode := ⟨false, true⟩

/-- The mode after some switches. -/
def apply (mode : Mode) (switches : Switches) : Mode :=
  ⟨switches.get .ignoresCase mode.ignoresCase, switches.get .byCharacters mode.byCharacters⟩

end Mode

/-- The number of ASCII characters. Their bytes are their codes. -/
def asciiCount : Nat := 0x80

/-- Whether a part of a pattern can be searched for. -/
def Atom.isKnown (mode : Mode) : Atom → Bool
  | literal l =>
    if mode.byCharacters then ! mode.ignoresCase else ! l.isByte || l.char.toNat < asciiCount
  | dot => mode.byCharacters
  | edge => true
  | wordEdge => ! mode.byCharacters
  | kind negated => ! mode.byCharacters && ! negated

/-- Whether a character can be in a set. -/
def Literal.isMember (mode : Mode) (l : Literal) : Bool :=
  if mode.byCharacters then ! mode.ignoresCase else l.char.toNat < asciiCount

mutual

/-- Whether it is known which characters are in a set. -/
def CharSet.isKnown (mode : Mode) : CharSet → Bool
  | .literal l => l.isMember mode
  | .range first last => first.isMember mode && last.isMember mode
  | .kind negated => ! mode.byCharacters && ! negated
  | .named negated => if mode.byCharacters then ! mode.ignoresCase else ! negated
  | .brackets negated inner => (mode.byCharacters || ! negated) && inner.isKnown mode
  | .union sets => CharSet.areKnown mode sets
  | .combined left right => left.isKnown mode && right.isKnown mode

/-- Whether it is known which characters are in some sets. -/
def CharSet.areKnown (mode : Mode) : List CharSet → Bool
  | [] => true
  | s :: rest => s.isKnown mode && CharSet.areKnown mode rest

end

mutual

/-- The mode behind a pattern, if it can be searched for. Switches count up to the end of
the group that they are in. -/
def modeAfter? (mode : Mode) : Pattern → Option Mode
  | switch switches => some (mode.apply switches)
  | atom a => if a.isKnown mode then some mode else none
  | set s => if s.isKnown mode then some mode else none
  | repeated p => p.modeAfter? mode
  | group switches p => (p.modeAfter? (mode.apply switches)).map fun _ => mode
  | sequence ps => modeAfterAll? mode ps
  | choice ps => modeAfterAll? mode ps

/-- The mode behind some patterns. -/
def modeAfterAll? (mode : Mode) : List Pattern → Option Mode
  | [] => some mode
  | p :: rest => (p.modeAfter? mode).bind fun mode => modeAfterAll? mode rest

end

end Pattern
end Text
end ApiStubs
