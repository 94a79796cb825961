import ApiStubs.Text.Digits

/-!
# Decimal notation

Numbers in decimal digits with an optional point among them and an optional exponent of
ten, without a sign. `Decimal.notation?` reads one as a whole number and a power of ten.
-/

namespace ApiStubs
namespace Decimal

/-- Decimal digits with an optional point among them: the number that they spell without
the point, and how many of them follow the point. -/
def mantissa? (chars : List Char) : Option (Nat × Nat) :=
  let whole := chars.takeWhile Char.isDigit
  match chars.dropWhile Char.isDigit with
  | [] => (Text.natOf? 10 whole).map (·, 0)
  | point :: fraction =>
    if point = '.' ∧ fraction.all Char.isDigit then
      (Text.natOf? 10 (whole ++ fraction)).map (·, fraction.length)
    else none

/-- An exponent with an optional sign. -/
def exponent? : List Char → Option Int
  | '-' :: digits => (Text.natOf? 10 digits).map fun n => -(n : Int)
  | '+' :: digits => (Text.natOf? 10 digits).map fun n => (n : Int)
  | digits => (Text.natOf? 10 digits).map fun n => (n : Int)

/-- The numbers `m` and `e` of which decimal digits with an optional exponent spell
`m · 10 ^ e`. -/
def notation? (chars : List Char) : Option (Nat × Int) := do
  let isMark (c : Char) := c == 'e' || c == 'E'
  let (m, places) ← mantissa? (chars.takeWhile (! isMark ·))
  let exponent ←
    match chars.dropWhile (! isMark ·) with
    | [] => some 0
    | _ :: rest => exponent? rest
  some (m, exponent - places)

end Decimal
end ApiStubs
