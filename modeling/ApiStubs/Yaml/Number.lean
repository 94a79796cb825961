import ApiStubs.Decimal.Binary64
import ApiStubs.Decimal.Notation

/-!
# Numbers

The spellings of numbers among plain scalars.

* An integer has an optional sign and decimal digits, or digits of base 16, 8 or 2 after
  `0x`, `0o` or `0b`. A decimal of several digits does not start with a zero.
* A floating point number has an optional sign, decimal digits with an optional point
  among them, and an optional exponent; or it is one of the words for infinity and for
  not a number.

Both readers take the scalar with its sign.
-/

namespace ApiStubs
namespace Yaml
namespace Number

/-- Whether decimal digits start with a zero that is not all of them. -/
def hasLeadingZero (digits : List Char) : Bool :=
  digits.length > 1 && digits.head? == some '0' && digits.all Char.isDigit

/-- The number that digits without a sign spell, in any base. -/
def magnitude? : List Char → Option Nat
  | '0' :: 'x' :: digits => Text.natOf? 16 digits
  | '0' :: 'o' :: digits => Text.natOf? 8 digits
  | '0' :: 'b' :: digits => Text.natOf? 2 digits
  | digits => if hasLeadingZero digits then none else Text.natOf? 10 digits

/-- The integer that a scalar spells. -/
def int? : List Char → Option Int
  | '-' :: digits => (magnitude? digits).map fun n => -(n : Int)
  | '+' :: digits => (magnitude? digits).map fun n => (n : Int)
  | digits => (magnitude? digits).map fun n => (n : Int)

/-- The finite number that decimal digits with an optional exponent spell. -/
def decimal? (negative : Bool) (chars : List Char) : Option Binary64 :=
  (Decimal.notation? chars).bind fun (m, exponent) => Binary64.ofDecimal? negative m exponent

/-- The words for infinity. -/
def infinityWords : List (List Char) := [".inf".toList, ".Inf".toList, ".INF".toList]

/-- The words for not a number, which have no sign. -/
def nanWords : List (List Char) := [".nan".toList, ".NaN".toList, ".NAN".toList]

/-- The floating point number that a scalar without a sign spells. -/
def unsignedFloat? (negative : Bool) (chars : List Char) : Option Binary64 :=
  if infinityWords.contains chars then some (.infinity negative)
  else decimal? negative chars

/-- The floating point number that a scalar spells. -/
def float? (chars : List Char) : Option Binary64 :=
  match chars with
  | '-' :: rest => unsignedFloat? true rest
  | '+' :: rest => unsignedFloat? false rest
  | _ => if nanWords.contains chars then some .nan else unsignedFloat? false chars

end Number
end Yaml
end ApiStubs
