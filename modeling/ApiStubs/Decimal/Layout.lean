import ApiStubs.Decimal.Shortest

/-!
# The text of a floating point number

The digits of a finite number are the shortest ones that read back. They are laid
out positionally where the decimal point falls near them, always with at least one
digit on either side of the point, and with an exponent otherwise: one digit, the
others after a point if there are others, `e`, and the exponent without a plus
sign. `Layout.plain` says what counts as near.
-/

namespace ApiStubs

/-- Where positional notation ends: at most `integerDigits` digits stand before the
point, and at most `leadingZeros` zeros follow it before the first digit. -/
structure Layout where
  integerDigits : Nat
  leadingZeros : Nat

namespace Layout

/-- Up to sixteen digits before the point, or up to four zeros after it. -/
def plain : Layout := ⟨16, 4⟩

/-- The text of `0.d₁d₂… · 10 ^ point`, for the digits `d₁d₂…`. -/
def lay (layout : Layout) (digits : List Char) (point : Int) : List Char :=
  let count : Int := digits.length
  if 0 < point ∧ point ≤ layout.integerDigits then
    if count ≤ point then
      digits ++ List.replicate (point - count).toNat '0' ++ ['.', '0']
    else digits.take point.toNat ++ '.' :: digits.drop point.toNat
  else if point ≤ 0 ∧ -point ≤ layout.leadingZeros then
    '0' :: '.' :: List.replicate (-point).toNat '0' ++ digits
  else
    let exponent := 'e' :: (toString (point - 1)).toList
    match digits with
    | [d] => d :: exponent
    | d :: ds => d :: '.' :: ds ++ exponent
    | [] => exponent

end Layout

namespace Binary64

/-- The text of a floating point number. -/
def text : Binary64 → String
  | nan => ".nan"
  | infinity negative => if negative then "-.inf" else ".inf"
  | finite negative m q =>
    let unsigned :=
      if m = 0 then ['0', '.', '0']
      else
        let d := Shortest.digits m q
        let digits := Nat.toDigits 10 d.coefficient
        Layout.plain.lay digits (digits.length + d.exponent)
    String.ofList (if negative then '-' :: unsigned else unsigned)

end Binary64
end ApiStubs
