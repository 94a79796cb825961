import ApiStubs.Text.Alphanumeric
import ApiStubs.Text.Blank
import ApiStubs.Text.Digits
import ApiStubs.Text.Pattern

/-!
# Reading search patterns

`Pattern.ofChars?` reads a pattern that can be searched for and is not nested too deeply.
Two readers pass the text sign by sign and keep the groups or brackets that are open:
`Reader` for patterns and `SetReader` for the sets in them.
-/

namespace ApiStubs
namespace Text
namespace Pattern

/-- Passes blanks and comments. A comment goes from a number sign to the end of its line. -/
def passSpace (inComment : Bool) : List Char → List Char
  | [] => []
  | c :: rest =>
    if inComment then passSpace (c != '\n') rest
    else if isBlank c then passSpace false rest
    else if c = '#' then passSpace true rest
    else c :: rest

/-- Passes blanks and comments where they do not count. -/
def passIf (spaced : Bool) (text : List Char) : List Char :=
  if spaced then passSpace false text else text

/-! ### Escapes -/

/-- Whether a character stands for itself behind a backslash. -/
def isPlainEscape (c : Char) : Bool :=
  c.toNat < asciiCount && ! c.isAlphanum && c != '<' && c != '>'

/-- The character for which a letter behind a backslash stands. -/
def letterEscape? : Char → Option Char
  | 'a' => some '\x07'
  | 'f' => some '\x0c'
  | 't' => some '\t'
  | 'n' => some '\n'
  | 'r' => some '\r'
  | 'v' => some '\x0b'
  | _ => none

/-- The number of digits behind a letter that announces a code. -/
def codeLength? : Char → Option Nat
  | 'x' => some 2
  | 'u' => some 4
  | 'U' => some 8
  | _ => none

/-- The next characters, and what follows them. -/
def takeSpaced (spaced : Bool) : Nat → List Char → Option (List Char × List Char)
  | 0, text => some ([], text)
  | count + 1, text =>
    match passIf spaced text with
    | [] => none
    | c :: rest => (takeSpaced spaced count rest).map fun (taken, rest) => (c :: taken, rest)

/-- The character with a code of `length` digits, and what follows it. -/
def code? (spaced : Bool) (length : Nat) (text : List Char) :
    Option (Atom × List Char) := do
  let (digits, rest) ← takeSpaced spaced length text
  let c ← (natOf? 16 digits).bind charOf?
  some (.literal ⟨c, length == 2⟩, rest)

/-- What stands behind a backslash, and what follows it. -/
def escape? (spaced : Bool) : List Char → Option (Atom × List Char)
  | [] => none
  | c :: rest =>
    match codeLength? c, letterEscape? c with
    | some length, _ => code? spaced length rest
    | none, some named => some (.literal ⟨named, false⟩, rest)
    | none, none =>
      if isPlainEscape c then some (.literal ⟨c, false⟩, rest)
      else if c = 'A' ∨ c = 'z' then some (.edge, rest)
      else if ['b', 'B', '<', '>'].contains c then some (.wordEdge, rest)
      else if ['d', 's', 'w'].contains c then some (.kind false, rest)
      else if ['D', 'S', 'W'].contains c then some (.kind true, rest)
      else none

/-! ### Sets -/

/-- The classes of ASCII characters with a name. -/
def classNames : List (List Char) :=
  ["alnum", "alpha", "ascii", "blank", "cntrl", "digit", "graph", "lower", "print", "punct",
    "space", "upper", "word", "xdigit"].map String.toList

/-- A named class behind its opening bracket, and what follows it. -/
def namedClass? : List Char → Option (CharSet × List Char)
  | ':' :: text =>
    let negated := text.head? = some '^'
    let text := if negated then text.tail else text
    match text.dropWhile (· != ':') with
    | ':' :: ']' :: rest =>
      if classNames.contains (text.takeWhile (· != ':')) then some (.named negated, rest)
      else none
    | _ => none
  | _ => none

/-- A part of a set, and what follows it. -/
def setAtom? (spaced : Bool) : List Char → Option (Atom × List Char)
  | [] => none
  | c :: rest =>
    if c = '\\' then escape? spaced rest else some (.literal ⟨c, false⟩, rest)

/-- A part of a set as a set. Places are none. -/
def Atom.toSet? : Atom → Option CharSet
  | literal l => some (.literal l)
  | kind negated => some (.kind negated)
  | _ => none

/-- The sign behind a hyphen. A number sign before it does not count, where blanks do
not. -/
def signBehind? (spaced : Bool) (text : List Char) : Option Char :=
  if spaced then
    match text.dropWhile isBlank with
    | '#' :: rest => (rest.dropWhile isBlank).head?
    | rest => rest.head?
  else text.head?

/-- The range that starts with a part of a set, if a hyphen and its end follow, or that
part alone, and what follows it. -/
def setItem? (spaced : Bool) (text : List Char) : Option (CharSet × List Char) := do
  let (first, rest) ← setAtom? spaced text
  let alone := first.toSet?.map (·, passIf spaced rest)
  match passIf spaced rest with
  | '-' :: after =>
    if signBehind? spaced after = some ']' ∨ signBehind? spaced after = some '-' then alone
    else
      match first, ← setAtom? spaced (passIf spaced after) with
      | .literal l, (.literal m, rest) =>
        if l.char ≤ m.char then some (.range l m, rest) else none
      | _, _ => none
  | _ => alone

/-- What is kept of the outside of an open bracket: the parts before it, the last one
first, and the set with which they are to be combined. -/
structure OpenBracket where
  negated : Bool
  items : List CharSet
  left : Option CharSet

/-- The state of reading a set. The innermost bracket is `fresh` up to its first part that
is not a hyphen. -/
structure SetReader where
  negated : Bool
  fresh : Bool
  items : List CharSet
  left : Option CharSet
  outer : List OpenBracket

namespace SetReader

/-- Behind the opening bracket of a set, and what follows a sign of negation there. -/
def opened (spaced : Bool) (outer : List OpenBracket) (text : List Char) :
    SetReader × List Char :=
  match passIf spaced text with
  | '^' :: rest => (⟨true, true, [], none, outer⟩, rest)
  | rest => (⟨false, true, [], none, outer⟩, rest)

/-- Adds a part. -/
def add (r : SetReader) (fresh : Bool) (item : CharSet) : SetReader :=
  { r with fresh, items := item :: r.items }

/-- The set between the innermost brackets up to here. -/
def inner (r : SetReader) : CharSet :=
  let last := CharSet.union r.items.reverse
  r.left.elim last (CharSet.combined · last)

/-- Closes the innermost bracket: the set if it is the outermost one, or the reader
behind it. -/
def close (r : SetReader) : CharSet ⊕ SetReader :=
  let s := CharSet.brackets r.negated r.inner
  match r.outer with
  | [] => .inl s
  | o :: outer => .inr ⟨o.negated, false, s :: o.items, o.left, outer⟩

/-- Opens a bracket in a set. -/
def nest (spaced : Bool) (r : SetReader) (text : List Char) : SetReader × List Char :=
  opened spaced (⟨r.negated, r.items, r.left⟩ :: r.outer) text

/-- Passes the sign that combines two sets. -/
def combine (r : SetReader) : SetReader :=
  { r with items := [], left := some r.inner, fresh := false }

/-- Whether two characters are a sign that combines two sets. -/
def isCombination (c d : Char) : Bool := c == d && (c == '&' || c == '-' || c == '~')

/-- Passes a part of a set that starts with `c`. -/
def step (spaced : Bool) (r : SetReader) (c : Char) (rest : List Char) :
    Option (SetReader × List Char) :=
  if r.fresh ∧ c = '-' then some (r.add true (.literal ⟨c, false⟩), rest)
  else if c = '[' then
    match namedClass? rest with
    | some (item, rest) => some (r.add false item, rest)
    | none => some (r.nest spaced rest)
  else if rest.head?.any (isCombination c) then some (r.combine, rest.tail)
  else (setItem? spaced (c :: rest)).map fun (item, rest) => (r.add false item, rest)

/-- Reads on up to the end of the set, in at most `limit` steps, and tells what follows. -/
def run (spaced : Bool) : Nat → SetReader → List Char → Option (CharSet × List Char)
  | 0, _, _ => none
  | limit + 1, r, text =>
    match passIf spaced text with
    | [] => none
    | c :: rest =>
      -- A bracket that closes an empty set stands for itself.
      if c = ']' ∧ ! (r.fresh && r.items.isEmpty) then
        match r.close with
        | .inl s => some (s, rest)
        | .inr r => run spaced limit r rest
      else if c = ']' then run spaced limit (r.add false (.literal ⟨c, false⟩)) rest
      else (r.step spaced c rest).bind fun (r, rest) => run spaced limit r rest

end SetReader

/-- The set behind its opening bracket, and what follows it. -/
def set? (spaced : Bool) (text : List Char) : Option (CharSet × List Char) :=
  let (r, rest) := SetReader.opened spaced [] text
  r.run spaced (rest.length + 1) rest

/-! ### Groups -/

/-- The flag with a letter. -/
def Flag.ofChar? : Char → Option Flag
  | 'i' => some .ignoresCase
  | 'm' => some .byLines
  | 's' => some .dotMeetsBreaks
  | 'U' => some .short
  | 'u' => some .byCharacters
  | 'R' => some .returnBreaks
  | 'x' => some .spaced
  | _ => none

/-- The switches that letters spell. Those behind a hyphen are off, and there is one at
least. No letter stands twice. -/
def switches? (letters : List Char) : Option Switches := do
  let on ← (letters.takeWhile (· != '-')).mapM Flag.ofChar?
  let off ←
    match letters.dropWhile (· != '-') with
    | [] => some []
    | _ :: off => if off.isEmpty then none else off.mapM Flag.ofChar?
  if (on ++ off).Nodup then some (on.map (·, true) ++ off.map (·, false)) else none

/-- Whether a name of a group may hold a character behind its first one. -/
def isNamePart (c : Char) : Bool := isAlphanumeric c || ['_', '.', '[', ']'].contains c

/-- A name of a group up to its closing angle bracket, and what follows it. -/
def groupName? (text : List Char) : Option (List Char × List Char) :=
  match text.takeWhile (· != '>'), text.dropWhile (· != '>') with
  | c :: name, _ :: rest =>
    if (c == '_' || isAlphabetic c) && name.all isNamePart then some (c :: name, rest)
    else none
  | _, _ => none

/-- What an opening parenthesis starts: a group, perhaps with a name, or switches for the
rest of the group that it stands in. -/
inductive Opening where
  | group (switches : Switches)
  | named (name : List Char)
  | switch (switches : Switches)

/-- Reads on behind an opening parenthesis, and tells what follows what it starts. -/
def opening? (spaced : Bool) (text : List Char) : Option (Opening × List Char) :=
  match passIf spaced text with
  | '?' :: 'P' :: '<' :: rest => (groupName? rest).map fun (name, rest) => (.named name, rest)
  | '?' :: '<' :: rest => (groupName? rest).map fun (name, rest) => (.named name, rest)
  | '?' :: rest => do
    let isLetter (c : Char) := c != ':' && c != ')'
    let switches ← switches? (rest.takeWhile isLetter)
    match rest.dropWhile isLetter with
    | [] => none
    | c :: after =>
      if c = ':' then some (.group switches, after)
      else if switches.isEmpty then none
      else some (.switch switches, after)
  | rest => some (.group [], rest)

/-! ### Patterns -/

/-- What is kept of the outside of an open group: the parts before it, the last one
first, and the finished choices before these. -/
structure OpenGroup where
  switches : Switches
  spaced : Bool
  sequence : List Pattern
  choices : List Pattern

/-- The state of reading a pattern. -/
structure Reader where
  spaced : Bool
  names : List (List Char)
  sequence : List Pattern
  choices : List Pattern
  outer : List OpenGroup

namespace Reader

/-- Before the first sign. -/
def start : Reader := ⟨false, [], [], [], []⟩

/-- Adds a part to the sequence. -/
def add (r : Reader) (p : Pattern) : Reader := { r with sequence := p :: r.sequence }

/-- What the innermost group holds up to here. -/
def inner (r : Reader) : Pattern :=
  let last := Pattern.sequence r.sequence.reverse
  if r.choices.isEmpty then last else .choice (last :: r.choices).reverse

/-- Begins another choice. -/
def another (r : Reader) : Reader :=
  { r with sequence := [], choices := .sequence r.sequence.reverse :: r.choices }

/-- Opens a group. -/
def openGroup (r : Reader) (switches : Switches) : Reader where
  spaced := switches.get .spaced r.spaced
  names := r.names
  sequence := []
  choices := []
  outer := ⟨switches, r.spaced, r.sequence, r.choices⟩ :: r.outer

/-- Passes what an opening parenthesis starts. A name stands once in a pattern. -/
def open? (r : Reader) : Opening → Option Reader
  | .group switches => some (r.openGroup switches)
  | .named name =>
    if r.names.contains name then none
    else some { r.openGroup [] with names := name :: r.names }
  | .switch switches =>
    some { r.add (.switch switches) with spaced := switches.get .spaced r.spaced }

/-- Closes the innermost group. -/
def close? (r : Reader) : Option Reader :=
  match r.outer with
  | [] => none
  | o :: outer =>
    some ⟨o.spaced, r.names, .group o.switches r.inner :: o.sequence, o.choices, outer⟩

/-- Repeats the last part. There has to be one, and it is no switch. -/
def repeat? (r : Reader) : Option Reader :=
  match r.sequence with
  | [] => none
  | .switch _ :: _ => none
  | p :: before => some { r with sequence := .repeated p :: before }

/-- Whether a character repeats the part before it. -/
def isRepetition (c : Char) : Bool := c == '?' || c == '*' || c == '+'

/-- Passes the part of a pattern that starts with `c`. -/
def step (r : Reader) (c : Char) (rest : List Char) : Option (Reader × List Char) :=
  if c = '(' then do
    let (opening, rest) ← opening? r.spaced rest
    (r.open? opening).map (·, rest)
  else if c = ')' then r.close?.map (·, rest)
  else if c = '|' then some (r.another, rest)
  else if c = '[' then (set? r.spaced rest).map fun (s, rest) => (r.add (.set s), rest)
  else if isRepetition c then
    -- A question mark right behind it says how to repeat.
    r.repeat?.map (·, if rest.head? = some '?' then rest.tail else rest)
  else if c = '\x7b' then none
  else if c = '\\' then
    (escape? r.spaced rest).map fun (a, rest) => (r.add (.atom a), rest)
  else if c = '.' then some (r.add (.atom .dot), rest)
  else if c = '^' ∨ c = '$' then some (r.add (.atom .edge), rest)
  else some (r.add (.atom (.literal ⟨c, false⟩)), rest)

/-- Reads on to the end of the text, in at most `limit` steps. -/
def run : Nat → Reader → List Char → Option Pattern
  | 0, _, _ => none
  | limit + 1, r, text =>
    match passIf r.spaced text with
    | [] => if r.outer.isEmpty then some r.inner else none
    | c :: rest => (r.step c rest).bind fun (r, rest) => run limit r rest

end Reader

/-- The greatest depth of a pattern. -/
def maxNesting : Nat := 250

/-- Reads a pattern that can be searched for. Each step passes a character at least. -/
def ofChars? (text : List Char) : Option Pattern :=
  (Reader.start.run (text.length + 1) text).filter fun p =>
    p.nesting ≤ maxNesting && (p.modeAfter? .start).isSome

end Pattern
end Text
end ApiStubs
