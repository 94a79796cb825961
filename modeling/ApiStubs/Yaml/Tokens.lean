import ApiStubs.Yaml.Token.Block
import ApiStubs.Yaml.Token.Directive
import ApiStubs.Yaml.Token.Plain
import ApiStubs.Yaml.Token.Quoted

/-!
# The tokens of a text

The scanner passes a text from token to token. Besides the place it keeps

* the columns of the open block collections, the innermost one first: a token at a
  lesser column ends them (`Scanner.unroll`), a greater one opens another
  (`Scanner.roll`);
* for each open flow collection, and outside of all, the place where a key may have
  begun (`SimpleKey`). When a colon follows on the same line within 1024 bytes,
  a `key` token is put there, before tokens that have been scanned already;
* whether such a key may begin here.

`Tokens.ofSource` yields the tokens of a source. A fault ends them, and with it go the
tokens that still wait behind a place where a key may have begun: whether a `key`
token belongs before them is not settled.
-/

namespace ApiStubs
namespace Yaml

/-- A place where a key may have begun. `number` counts the tokens before it. A key is
required where the text is indented like the keys of the innermost block mapping. -/
structure SimpleKey where
  required : Bool
  number : Nat
  mark : Mark
  deriving DecidableEq, Repr

namespace SimpleKey

/-- The number of bytes from the start of a key within which its colon stands. -/
def maxLength : Nat := 1024

/-- Whether a key that has begun here can no longer have its colon at `mark`. -/
def isStale (k : SimpleKey) (mark : Mark) : Bool :=
  k.mark.line < mark.line || k.mark.offset + maxLength < mark.offset

/-- A key that was required and did not come. -/
def fault (k : SimpleKey) (mark : Mark) : Fault :=
  .within .scanningSimpleKey k.mark .expectedColon mark

/-- What is left of a possible key at `mark`. -/
def refresh (mark : Mark) : Option SimpleKey → Except Fault (Option SimpleKey)
  | none => .ok none
  | some k =>
    if k.isStale mark then if k.required then .error (k.fault mark) else .ok none
    else .ok (some k)

end SimpleKey

/-- The state of scanning. `tokens` has the last token first, and `count` is their
number. `key` is the possible key at the current depth. Within flow collections `blockKey`
is that outside of all of them, and `outerKeys` has one item for each: that of the depth
around it, or nothing for the outermost one. Those may be stale. -/
structure Scanner where
  cursor : Cursor
  tokens : List Token
  count : Nat
  indents : List Nat
  keyAllowed : Bool
  key : Option SimpleKey
  blockKey : Option SimpleKey
  outerKeys : List (Option SimpleKey)

namespace Scanner

/-- Before the first token. -/
def start (source : Source) : Scanner where
  cursor := .ofSource source
  tokens := [⟨.streamStart, .start⟩]
  count := 1
  indents := []
  keyAllowed := true
  key := none
  blockKey := none
  outerKeys := []

/-- The current place. -/
def mark (s : Scanner) : Mark := s.cursor.mark

/-- Whether the place lies inside a flow collection. -/
def inFlow (s : Scanner) : Bool := ! s.outerKeys.isEmpty

/-! ### Adding tokens -/

/-- Adds a token at the end. -/
def push (s : Scanner) (kind : TokenKind) (mark : Mark) : Scanner :=
  { s with tokens := ⟨kind, mark⟩ :: s.tokens, count := s.count + 1 }

/-- Adds a token after the first `number` tokens. -/
def insert (s : Scanner) (number : Nat) (kind : TokenKind) (mark : Mark) : Scanner :=
  let later := s.count - number
  { s with
    tokens := s.tokens.take later ++ ⟨kind, mark⟩ :: s.tokens.drop later
    count := s.count + 1 }

/-- Adds a token of `width` characters at the current place, and passes it. -/
def emit (s : Scanner) (kind : TokenKind) (width : Nat) : Scanner :=
  { s.push kind s.mark with cursor := s.cursor.skip width }

/-- Adds a token that has been scanned from the current place to another one. -/
def emitTo (s : Scanner) (kind : TokenKind) (cursor : Cursor) : Scanner :=
  { s.push kind s.mark with cursor }

/-! ### Indentation -/

/-- Whether a column lies deeper than the innermost block collection. -/
def isDeeper (s : Scanner) (column : Nat) : Bool :=
  match s.indents with
  | [] => true
  | indent :: _ => indent < column

/-- Opens a block collection at the place of a token, if that lies deeper than the
innermost one. `number` counts the tokens before the place. -/
def roll (s : Scanner) (number : Nat) (kind : TokenKind) (mark : Mark) : Scanner :=
  if s.inFlow || ! s.isDeeper mark.column then s
  else { s.insert number kind mark with indents := mark.column :: s.indents }

/-- Ends the block collections of the columns in `indents` that do not lie within
`column`, all of them if there is no column. -/
def unrollFrom (column : Option Nat) (s : Scanner) : List Nat → Scanner
  | [] => { s with indents := [] }
  | indent :: outer =>
    if column.all (· < indent) then unrollFrom column (s.push .blockEnd s.mark) outer
    else { s with indents := indent :: outer }

/-- Ends the block collections that do not lie within a column, all of them if there is
no column. -/
def unroll (s : Scanner) (column : Option Nat) : Scanner :=
  if s.inFlow then s else unrollFrom column s s.indents

/-! ### Keys -/

/-- Gives up the possible keys that are stale. Only outside of all flow collections can a
key be required, so that the others may wait until their depth is the current one. -/
def refreshKeys (s : Scanner) : Except Fault Scanner := do
  let blockKey ← SimpleKey.refresh s.mark s.blockKey
  let key ← SimpleKey.refresh s.mark s.key
  .ok { s with key, blockKey }

/-- Goes into a flow collection. -/
def enterFlow (s : Scanner) : Scanner :=
  if s.inFlow then { s with key := none, outerKeys := s.key :: s.outerKeys }
  else { s with key := none, blockKey := s.key, outerKeys := [none] }

/-- Leaves a flow collection, if there is one. -/
def leaveFlow (s : Scanner) : Scanner :=
  match s.outerKeys with
  | [] => s
  | [_] => { s with key := s.blockKey, blockKey := none, outerKeys := [] }
  | key :: outerKeys => { s with key, outerKeys }

/-- Gives up the possible key of the current depth. -/
def dropKey (s : Scanner) : Except Fault Scanner :=
  match s.key with
  | some k => if k.required then .error (k.fault s.mark) else .ok { s with key := none }
  | none => .ok s

/-- Notes that a key may begin here. -/
def noteKey (s : Scanner) : Except Fault Scanner := do
  if s.keyAllowed then
    let s ← s.dropKey
    -- Content at the column of the innermost block collection can only be a key.
    let required := ! s.inFlow && s.indents.head? == some s.mark.column
    .ok { s with key := some ⟨required, s.count, s.mark⟩ }
  else .ok s

/-! ### Scanning a token -/

/-- Passes blanks, comments and line breaks, and a byte order mark at the start of a line. A
line break allows a key outside of flow collections. Where a key is allowed there, tabs
are not passed. -/
def passGap (inFlow keyAllowed inComment : Bool) (mark : Mark) :
    List Char → Bool × Mark × List Char
  | [] => (keyAllowed, mark, [])
  | c :: after =>
    if isBreak c then
      passGap inFlow (keyAllowed || ! inFlow) false (mark.nextLine c (breakTail c after))
        (after.drop (breakTail c after))
    else if inComment || c == ' ' || c == '\t' && (inFlow || ! keyAllowed) ||
        c == '\ufeff' && mark.column == 0 then
      passGap inFlow keyAllowed inComment (mark.pass c) after
    else if c == '#' then passGap inFlow keyAllowed true (mark.pass c) after
    else (keyAllowed, mark, c :: after)
termination_by rest => rest.length
decreasing_by all_goals simp only [List.length_cons, List.length_drop]; omega

/-- Goes to the next token, and settles what that says about the tokens before. -/
def toNextToken (s : Scanner) : Except Fault Scanner := do
  s.cursor.need 1
  let (keyAllowed, mark, rest) :=
    passGap s.inFlow s.keyAllowed false s.cursor.mark s.cursor.rest
  let s := { s with cursor := { s.cursor with mark, rest }, keyAllowed }
  s.cursor.need 1
  -- A stale key is told before the collections end that it would have belonged to.
  let s ← s.refreshKeys
  .ok (s.unroll (some s.mark.column))

/-- The end of the text, which counts as the start of a line. -/
def scanEnd (s : Scanner) : Except Fault Scanner := do
  let mark :=
    if s.mark.column = 0 then s.mark else { s.mark with line := s.mark.line + 1, column := 0 }
  -- The collections end at the place that counts as a line of its own.
  let s := { s with cursor := { s.cursor with mark } }
  let s ← (s.unroll none).dropKey
  .ok ({ s with keyAllowed := false }.push .streamEnd mark)

/-- A directive. -/
def scanDirective (s : Scanner) : Except Fault Scanner := do
  let s ← (s.unroll none).dropKey
  let (kind, cursor) ← Directive.scan s.cursor
  .ok ({ s with keyAllowed := false }.emitTo kind cursor)

/-- A document indicator. -/
def scanDocumentIndicator (kind : TokenKind) (s : Scanner) : Except Fault Scanner := do
  let s ← (s.unroll none).dropKey
  .ok ({ s with keyAllowed := false }.emit kind 3)

/-- The start of a flow collection, which may be a key. -/
def scanFlowStart (kind : TokenKind) (s : Scanner) : Except Fault Scanner := do
  let s ← s.noteKey
  .ok ({ s.enterFlow with keyAllowed := true }.emit kind 1)

/-- The end of a flow collection. Outside of any, the grammar will refuse it. -/
def scanFlowEnd (kind : TokenKind) (s : Scanner) : Except Fault Scanner := do
  let s ← s.dropKey
  .ok ({ s.leaveFlow with keyAllowed := false }.emit kind 1)

/-- A comma in a flow collection. -/
def scanFlowEntry (s : Scanner) : Except Fault Scanner := do
  let s ← s.dropKey
  .ok ({ s with keyAllowed := true }.emit .flowEntry 1)

/-- Opens a block collection at the current place. Outside of flow collections, a key
has to be allowed for that. -/
def openBlock (problem : Problem) (kind : TokenKind) (s : Scanner) : Except Fault Scanner :=
  if s.inFlow then .ok s
  else if s.keyAllowed then .ok (s.roll s.count kind s.mark)
  else .error (.found problem s.mark none)

/-- A dash before an item. -/
def scanBlockEntry (s : Scanner) : Except Fault Scanner := do
  let s ← s.openBlock .blockEntryNotAllowed .blockSequenceStart
  let s ← s.dropKey
  .ok ({ s with keyAllowed := true }.emit .blockEntry 1)

/-- A question mark before a key. -/
def scanKey (s : Scanner) : Except Fault Scanner := do
  let s ← s.openBlock .mappingKeyNotAllowed .blockMappingStart
  let s ← s.dropKey
  .ok ({ s with keyAllowed := ! s.inFlow }.emit .key 1)

/-- A colon before a value. If a key may have begun before, it has. -/
def scanValue (s : Scanner) : Except Fault Scanner := do
  match s.key with
  | some k =>
    -- The mapping starts before its first key, hence at the same number.
    let s := (s.insert k.number .key k.mark).roll k.number .blockMappingStart k.mark
    .ok ({ s with key := none, keyAllowed := false }.emit .value 1)
  | none =>
    let s ← s.openBlock .mappingValueNotAllowed .blockMappingStart
    .ok ({ s with keyAllowed := ! s.inFlow }.emit .value 1)

/-- A token that may be a key, or the start of one. -/
def scanContent (scan : Scanner → Except Fault (TokenKind × Cursor)) (s : Scanner) :
    Except Fault Scanner := do
  let s ← s.noteKey
  let (kind, cursor) ← scan s
  .ok ({ s with keyAllowed := false }.emitTo kind cursor)

/-- An anchor or an alias. -/
def scanAnchor (activity : Activity) (kind : List Char → TokenKind) (s : Scanner) :
    Except Fault (TokenKind × Cursor) := do
  let (name, cursor) ← scanAnchorName activity s.cursor
  .ok (kind name, cursor)

/-- A quoted scalar. -/
def scanQuoted (double : Bool) (s : Scanner) : Except Fault (TokenKind × Cursor) := do
  let (text, cursor) ← Quoted.scan double s.cursor
  .ok (.scalar text .quoted, cursor)

/-- A block scalar. -/
def scanBlock (folded : Bool) (s : Scanner) : Except Fault Scanner := do
  let s ← s.dropKey
  let (text, cursor) ← Block.scan folded s.indents.head? s.cursor
  .ok ({ s with keyAllowed := true }.emitTo (.scalar text .block) cursor)

/-- A plain scalar. If a line break follows it, the next token starts a line. -/
def scanPlain (s : Scanner) : Except Fault Scanner := do
  let s ← s.noteKey
  let scanned ← Plain.scan s.inFlow (s.indents.head?.elim 0 (· + 1)) s.cursor
  .ok ({ s with keyAllowed := scanned.broken }.emitTo (.scalar scanned.text .plain) scanned.cursor)

/-- Whether a plain scalar starts with the characters ahead. -/
def startsPlain (inFlow : Bool) (c : Char) (after : List Char) : Bool :=
  ! (isGap c || isIndicator c) || c == '-' && ! atClass isBlank after ||
    ! inFlow && (c == '?' || c == ':') && ! atGap after

/-- Scans the token that starts with `c`, outside of what only a line may start with. -/
def scanFromChar (s : Scanner) (c : Char) (after : List Char) : Except Fault Scanner :=
  if c = '[' then s.scanFlowStart .flowSequenceStart
  else if c = '\x7b' then s.scanFlowStart .flowMappingStart
  else if c = ']' then s.scanFlowEnd .flowSequenceEnd
  else if c = '\x7d' then s.scanFlowEnd .flowMappingEnd
  else if c = ',' then s.scanFlowEntry
  else if c = '-' ∧ atGap after then s.scanBlockEntry
  else if c = '?' ∧ (s.inFlow ∨ atGap after) then s.scanKey
  else if c = ':' ∧ (s.inFlow ∨ atGap after) then s.scanValue
  else if c = '*' then s.scanContent (scanAnchor .scanningAlias .aliasTo)
  else if c = '&' then s.scanContent (scanAnchor .scanningAnchor .anchor)
  else if c = '!' then s.scanContent (fun s => Tag.scan s.inFlow s.cursor)
  else if c = '|' ∧ ! s.inFlow then s.scanBlock false
  else if c = '>' ∧ ! s.inFlow then s.scanBlock true
  else if c = '\x27' then s.scanContent (scanQuoted false)
  else if c = '"' then s.scanContent (scanQuoted true)
  else if startsPlain s.inFlow c after then s.scanPlain
  else .error (.within .scanningToken s.mark .characterStartsNoToken s.mark)

/-- Scans the next token. -/
def scanToken (s : Scanner) : Except Fault Scanner := do
  let s ← s.toNextToken
  s.cursor.need 4
  match s.cursor.rest with
  | [] => s.scanEnd
  | c :: after =>
    if s.mark.column = 0 ∧ c = '%' then s.scanDirective
    else if s.mark.column = 0 ∧ atDocumentIndicator (c :: after) then
      s.scanDocumentIndicator (if c = '-' then .documentStart else .documentEnd)
    else s.scanFromChar c after

/-- Scans the next token, and gives up the possible keys that are stale after it. -/
def step (s : Scanner) : Except Fault Scanner := do
  let s ← s.scanToken
  s.refreshKeys

/-- Whether the end of the text has been reached. -/
def isDone (s : Scanner) : Bool := s.tokens.head?.any (·.kind == .streamEnd)

/-- The number of tokens before which no `key` token can come any more. -/
def settledCount (s : Scanner) : Nat :=
  (s.key :: s.blockKey :: s.outerKeys).foldl
    (fun n key => (key.filter (! ·.isStale s.mark)).elim n (min n ·.number)) s.count

/-- The settled tokens, the last one first. -/
def settled (s : Scanner) : List Token := s.tokens.drop (s.count - s.settledCount)

end Scanner

/-- The tokens of a text, up to its end or to a fault. -/
structure Tokens where
  list : List Token
  fault : Option Fault

namespace Tokens

/-- Scans on, by at most `limit` tokens. -/
def scanFrom (s : Scanner) : Nat → Tokens
  | 0 => ⟨s.tokens.reverse, none⟩
  | limit + 1 =>
    match s.step with
    | .error fault => ⟨s.settled.reverse, some fault⟩
    | .ok next => if next.isDone then ⟨next.tokens.reverse, none⟩ else scanFrom next limit

/-- The tokens of a source. Each step but the last one passes at least one character. -/
def ofSource (source : Source) : Tokens :=
  scanFrom (.start source) (source.chars.length + 1)

end Tokens
end Yaml
end ApiStubs
