import ApiStubs.Decimal.Notation
import ApiStubs.Log.Record
import ApiStubs.Text.Pattern.Reading
import ApiStubs.Text.Slice

/-!
# Directives about records

A `Directive` sets the least severe level that is shown, for some records:

* those whose origin starts with a target;
* those that have a field, perhaps with a value, in braces within brackets;
* those within a span of the run that has a name, in brackets.

It is written as target, brackets and an equals sign with a level, and all but one of
them may be left out. A level alone is about all records, and without a level everything
is shown.

Blanks around a directive do not count when its signs are looked for. What stands between
the signs is then cut out of the whole, blanks included, at the positions of the signs.
-/

namespace ApiStubs
namespace Log

/-- The least severe level that is shown, none if nothing is. -/
abbrev Threshold := Option Level

namespace Threshold

/-- Whether a level is shown. -/
def admits (threshold : Threshold) (level : Level) : Bool :=
  threshold.any fun least => level.rank ≤ least.rank

/-- The threshold with a number. -/
def ofNat? : Nat → Option Threshold
  | 0 => some none
  | 1 => some (some .error)
  | 2 => some (some .warn)
  | 3 => some (some .info)
  | 4 => some (some .debug)
  | 5 => some (some .trace)
  | _ => none

/-- The number that decimal digits spell, perhaps behind a plus sign. -/
def number? (word : List Char) : Option Nat :=
  Text.natOf? 10 (if word.head? = some '+' then word.tail else word)

/-- The threshold with a name, in letters of either case. -/
def ofName? (name : String) : Option Threshold :=
  match String.ofList (name.toList.map Char.toLower) with
  | "off" => some none
  | "error" => some (some .error)
  | "warn" => some (some .warn)
  | "info" => some (some .info)
  | "debug" => some (some .debug)
  | "trace" => some (some .trace)
  | _ => none

/-- The threshold that a number or a name stands for. -/
def ofWord? (word : List Char) : Option Threshold :=
  ((number? word).bind ofNat?).or (ofName? (String.ofList word))

end Threshold

/-- A condition on the fields of a record: that one with this name is there, and perhaps
that it has a value. -/
structure FieldCondition where
  name : String
  hasValue : Bool
  deriving DecidableEq, Repr

/-- A threshold for some records. -/
structure Directive where
  target : Option String
  /-- Whether it is about a span with a name. -/
  inSpan : Bool
  field : Option FieldCondition
  threshold : Threshold
  deriving DecidableEq, Repr

namespace Directive

/-! ### Reading -/

/-- Whether a directive without a span may start with a character. -/
def mayStartWith (c : Char) : Bool :=
  c == '-' || c == ':' || c == '_' || Text.isAlphanumeric c

/-- The threshold that stands behind an equals sign, or everything. -/
def thresholdOf? (word : List Char) : Option Threshold :=
  if word.isEmpty then some (some .trace) else Threshold.ofWord? word

/-- The threshold at a position of a directive, behind all else, if `rest` follows there. -/
def thresholdAt? (whole : List Char) (position : Nat) (rest : List Char) :
    Option Threshold :=
  match rest with
  | [] => some (some .trace)
  | c :: _ => if c = '=' then thresholdOf? (Text.dropBytes (position + 1) whole) else none

/-- The words that count as numbers, in letters of either case. -/
def numberWords : List (List Char) := ["inf", "infinity", "nan"].map String.toList

/-- Whether a text is a number with an optional sign. -/
def isNumber (text : List Char) : Bool :=
  let digits := if text.head?.any (['+', '-'].contains ·) then text.tail else text
  numberWords.contains (digits.map Char.toLower) || (Decimal.notation? digits).isSome

/-- Whether a field can be asked for a value: a number, or a pattern to search for. -/
def isValue (text : List Char) : Bool :=
  isNumber text || (Text.Pattern.ofChars? text).isSome

/-- The condition that the text between braces spells: a name, or a name and a value with
an equals sign between them. A second sign ends the value. -/
def fieldOf? (text : List Char) : Option FieldCondition :=
  let name := String.ofList (text.takeWhile (· != '='))
  match text.dropWhile (· != '=') with
  | [] => some ⟨name, false⟩
  | _ :: rest => if isValue (rest.takeWhile (· != '=')) then some ⟨name, true⟩ else none

/-- Reads on behind the brace that opens a field, at a position where `rest` follows. The
closing brace and bracket have to be there, and a field between the braces. -/
def ofField? (whole : List Char) (target : Option String) (inSpan : Bool)
    (position : Nat) (rest : List Char) : Option Directive :=
  let text := rest.takeWhile (· != '\x7d')
  let stop := position + Text.byteLength text
  match rest.dropWhile (· != '\x7d') with
  | _ :: c :: rest =>
    if c = ']' ∧ text ≠ [] then do
      let field ← fieldOf? (Text.slice whole position stop)
      (thresholdAt? whole (stop + 2) rest).map (⟨target, inSpan, some field, ·⟩)
    else none
  | _ => none

/-- Reads on behind the bracket that opens a span, at a position where `rest` follows. A
span without a field has a name, be it empty. -/
def ofSpan? (whole : List Char) (target : Option String) (position : Nat)
    (rest : List Char) : Option Directive :=
  let isName (c : Char) := c != ']' && c != '\x7b'
  let name := rest.takeWhile isName
  let stop := position + Text.byteLength name
  match rest.dropWhile isName with
  | [] => none
  | c :: rest =>
    if c = ']' then
      (thresholdAt? whole (stop + 1) rest).map (⟨target, true, none, ·⟩)
    else ofField? whole target (! name.isEmpty) (stop + 1) rest

/-- Reads a directive that is no span alone. -/
def ofTarget? (whole core : List Char) : Option Directive :=
  let isTarget (c : Char) := c != '=' && c != '['
  let stop := Text.byteLength (core.takeWhile isTarget)
  let target := String.ofList (Text.takeBytes stop whole)
  match core.dropWhile isTarget with
  | [] =>
    match Threshold.ofWord? whole with
    | some threshold => some ⟨none, false, none, threshold⟩
    | none => some ⟨some (String.ofList whole), false, none, some .trace⟩
  | c :: rest =>
    if c = '[' then ofSpan? whole (some target) (stop + 1) rest
    else (thresholdAt? whole stop (c :: rest)).map (⟨some target, false, none, ·⟩)

/-- Reads a directive. -/
def ofChars? (whole : List Char) : Option Directive :=
  match Text.trimBlanks whole with
  | [] => none
  | c :: rest =>
    if c = '[' then ofSpan? whole none 1 rest
    else if mayStartWith c then ofTarget? whole (c :: rest)
    else none

/-! ### Records -/

/-- Whether a record meets a condition on its fields. A record alone shows names only. -/
def meets (field : FieldCondition) (r : Record) : Bool :=
  ! field.hasValue && r.fields.contains field.name

/-- Whether a directive is about a record. No record stands within a span. -/
def concerns (d : Directive) (r : Record) : Bool :=
  ! d.inSpan && d.field.all (meets · r) &&
    d.target.all fun target => target.toList.isPrefixOf r.origin.toList

/-- How specific a target is: the more, the longer. -/
def weight (d : Directive) : Nat := d.target.elim 0 (·.utf8ByteSize + 1)

/-- Whether a directive gives way to another one about the same record. The longer target
counts, then a field rather than none, then the field that comes last in order. -/
def givesWayTo (d other : Directive) : Bool :=
  if d.weight = other.weight then
    match d.field, other.field with
    | none, _ => true
    | some _, none => false
    | some field, some others => field.name ≤ others.name
  else d.weight < other.weight

end Directive
end Log
end ApiStubs
