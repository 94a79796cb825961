/-!
# Sets of code points

A set of code points is an array of ranges in ascending order, each with its first and
its last member. `Text.inRanges` looks a code point up by halving.
-/

namespace ApiStubs
namespace Text

/-- Whether a code point lies in one of the ranges number `low` to `high - 1`. Each of at
most `steps` steps halves their number. -/
def inRangesBetween (ranges : Array (Nat × Nat)) (n low high : Nat) : Nat → Bool
  | 0 => false
  | steps + 1 =>
    if low < high then
      let middle := (low + high) / 2
      match ranges[middle]? with
      | none => false
      | some (first, last) =>
        if n < first then inRangesBetween ranges n low middle steps
        else if last < n then inRangesBetween ranges n (middle + 1) high steps
        else true
    else false

/-- Whether a code point lies in one of some ascending ranges. -/
def inRanges (ranges : Array (Nat × Nat)) (n : Nat) : Bool :=
  inRangesBetween ranges n 0 ranges.size (ranges.size.log2 + 2)

end Text
end ApiStubs
