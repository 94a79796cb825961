import ApiStubs.Yaml.Number
import ApiStubs.Yaml.Token.Tag
import ApiStubs.Yaml.Value

/-!
# The values of scalars

A plain scalar without a tag means null, a boolean, an integer or a floating point
number if it is spelt like one, in this order, and a string otherwise
(`Scalar.resolve`). Quoted and block scalars are strings.

A tag of the core schema forces its type, whatever the style; the text has to be spelt
accordingly. Under any other tag a scalar is a string, unless it is plain and the tag is
a local one, with a `!` at its start.

Integers have 64 bits. Longer ones are refused as long as they have 128 bits.
-/

namespace ApiStubs
namespace Yaml

/-- The types of the core schema that a tag can force. -/
inductive CoreType where
  | bool
  | int
  | float
  | null
  deriving DecidableEq, Repr

namespace CoreType

/-- The type in words. -/
def description : CoreType → String
  | bool => "a boolean"
  | int => "an integer"
  | float => "a float"
  | null => "null"

/-- The last word of the tag. -/
def word : CoreType → String
  | bool => "bool"
  | int => "int"
  | float => "float"
  | null => "null"

/-- The tag that forces the type. -/
def tag (t : CoreType) : TagText :=
  Tag.bytesOf ("tag:yaml.org,2002:".toList ++ t.word.toList)

/-- The type that a tag forces. -/
def ofTag? (tag : TagText) : Option CoreType :=
  [bool, int, float, null].find? (·.tag == tag)

end CoreType

/-- Why a scalar has no value: an integer is too long, or a text is not spelt as its tag
says. -/
inductive ScalarFault where
  | wideInteger (n : Int)
  | mismatch (expected : CoreType) (text : String)
  deriving DecidableEq, Repr

namespace Scalar

/-- The words for null. -/
def nullWords : List String := ["null", "Null", "NULL", "~"]

/-- The boolean for which a word stands. -/
def bool? (text : String) : Option Bool :=
  if ["true", "True", "TRUE"].contains text then some true
  else if ["false", "False", "FALSE"].contains text then some false
  else none

/-- Whether an integer fits into `bits + 1` bits, with a sign or without. -/
def fits (bits : Nat) (n : Int) : Bool :=
  -(Nat.pow 2 bits : Int) ≤ n && n < (Nat.pow 2 (bits + 1) : Int)

/-- The value of an integer, unless it is so long that it is none. -/
def intValue? (text : List Char) : Option (Except ScalarFault Value) :=
  match Number.int? text with
  | none => none
  | some n =>
    if fits 63 n then some (.ok (.int n))
    else if fits 127 n then some (.error (.wideInteger n))
    -- What is longer still is left to be read as a floating point number.
    else none

/-- The text of a decimal after its sign. -/
def unsigned : List Char → List Char
  | '-' :: rest => rest
  | '+' :: rest => rest
  | chars => chars

/-- The value of a plain scalar without a tag. -/
def resolve (chars : List Char) : Except ScalarFault Value :=
  let text := String.ofList chars
  if chars.isEmpty || nullWords.contains text then .ok .null
  else
    match bool? text with
    | some b => .ok (.bool b)
    | none =>
      match intValue? chars with
      | some result => result
      | none =>
        if Number.hasLeadingZero (unsigned chars) then .ok (.string text)
        else
          match Number.float? chars with
          | some x => .ok (.float x)
          | none => .ok (.string text)

/-- The value of a scalar whose type a tag forces. -/
def force (type : CoreType) (chars : List Char) : Except ScalarFault Value :=
  let text := String.ofList chars
  let mismatch : Except ScalarFault Value := .error (.mismatch type text)
  match type with
  | .bool => (bool? text).elim mismatch (.ok <| .bool ·)
  | .int => (intValue? chars).getD mismatch
  | .float => (Number.float? chars).elim mismatch (.ok <| .float ·)
  | .null => if nullWords.contains text then .ok .null else mismatch

/-- The value of a scalar by its style alone. -/
def byStyle (chars : List Char) (style : ScalarStyle) : Except ScalarFault Value :=
  if style = .plain then resolve chars else .ok (.string (String.ofList chars))

/-- Whether a tag starts with `!`. -/
def isLocal (tag : TagText) : Bool := tag.head? == some 0x21

/-- The value of a scalar. -/
def value (tag : Option TagText) (chars : List Char) (style : ScalarStyle) :
    Except ScalarFault Value :=
  match tag with
  | none => byStyle chars style
  | some tag =>
    match CoreType.ofTag? tag with
    | some type => force type chars
    | none =>
      if isLocal tag then byStyle chars style else .ok (.string (String.ofList chars))

end Scalar
end Yaml
end ApiStubs
