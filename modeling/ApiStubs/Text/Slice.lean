/-!
# Parts of a text by positions in bytes

A position in a text counts the bytes in front of it, as the text is written in UTF-8.

* `Text.byteLength` is the length of a text in bytes.
* `Text.dropBytes` and `Text.takeBytes` cut a text in two at a position. A character
  around the position stays behind.
* `Text.slice` is the part between two positions.
-/

namespace ApiStubs
namespace Text

/-- The length of a text in bytes. -/
def byteLength : List Char → Nat
  | [] => 0
  | c :: text => c.utf8Size + byteLength text

/-- The text behind the first bytes. -/
def dropBytes : Nat → List Char → List Char
  | _, [] => []
  | count, c :: text => if count = 0 then c :: text else dropBytes (count - c.utf8Size) text

/-- The text of the first bytes. -/
def takeBytes : Nat → List Char → List Char
  | _, [] => []
  | count, c :: text => if count = 0 then [] else c :: takeBytes (count - c.utf8Size) text

/-- The part of a text between two positions. -/
def slice (text : List Char) (start stop : Nat) : List Char :=
  takeBytes (stop - start) (dropBytes start text)

/-- Behind the bytes of a text stands what follows it. -/
theorem dropBytes_byteLength (text rest : List Char) :
    dropBytes (byteLength text) (text ++ rest) = rest := by
  induction text with
  | nil => cases rest <;> simp [byteLength, dropBytes]
  | cons c text ih =>
    have positive : c.utf8Size + byteLength text ≠ 0 := by have := c.utf8Size_pos; omega
    rw [byteLength, List.cons_append, dropBytes, if_neg positive, Nat.add_sub_cancel_left, ih]

/-- As many bytes as a text has are that text. -/
theorem takeBytes_byteLength (text rest : List Char) :
    takeBytes (byteLength text) (text ++ rest) = text := by
  induction text with
  | nil => cases rest <;> simp [byteLength, takeBytes]
  | cons c text ih =>
    have positive : c.utf8Size + byteLength text ≠ 0 := by have := c.utf8Size_pos; omega
    rw [byteLength, List.cons_append, takeBytes, if_neg positive, Nat.add_sub_cancel_left, ih]

end Text
end ApiStubs
