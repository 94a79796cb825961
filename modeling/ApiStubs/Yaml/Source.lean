import ApiStubs.Yaml.Chars
import ApiStubs.Yaml.Fault

/-!
# Sources and cursors

A text is read in chunks of 16384 bytes, each of them as soon as its first
character is needed, and a chunk with a control character cannot be read at all.
Hence what can be read of a text is a list of characters, and either the text ends
after it or an unreadable chunk follows (`Source.ofString`).

A `Cursor` is a place in a source. `Cursor.need` fails iff a number of characters
ahead reaches into an unreadable chunk. Reading a character needs it, and how many
more are needed along with it is fixed for each step of the scanner.
-/

namespace ApiStubs
namespace Yaml

/-- The number of bytes that are read at once. -/
def chunkSize : Nat := 16384

/-- What can be read of a text. `blocked` is the number of bytes before the control
character in the chunk that follows, if there is one. -/
structure Source where
  chars : List Char
  blocked : Option Nat

namespace Source

/-- Reads on after `offset` bytes. `held` is what has been read of the current chunk,
which has room for `room` more bytes, and `done` what has been read before it, both
from the end. A character that does not fit into a chunk starts the next one. -/
def gather (offset room : Nat) (done held : List Char) : List Char → Source
  | [] => ⟨(held ++ done).reverse, none⟩
  | c :: cs =>
    if c.utf8Size ≤ room then
      if isAllowed c then
        gather (offset + c.utf8Size) (room - c.utf8Size) done (c :: held) cs
      -- The chunk cannot be read, and with it goes what has been read of it.
      else ⟨done.reverse, some offset⟩
    else if isAllowed c then
      gather (offset + c.utf8Size) (chunkSize - c.utf8Size) (held ++ done) [c] cs
    else ⟨(held ++ done).reverse, some offset⟩

/-- What can be read of a text. -/
def ofString (text : String) : Source := gather 0 chunkSize [] [] text.toList

end Source

/-- A place in a source, with what can be read from there. -/
structure Cursor where
  mark : Mark
  rest : List Char
  blocked : Option Nat

/-- Fails iff the next `count` characters reach into an unreadable chunk. -/
def need (blocked : Option Nat) (count : Nat) (rest : List Char) : Except Fault Unit :=
  match blocked with
  | none => .ok ()
  | some offset =>
    -- Fewer than `count` characters are left before the unreadable chunk.
    if (rest.drop (count - 1)).isEmpty then .error (.controlCharacter offset) else .ok ()

@[simp] theorem need_none (count : Nat) (rest : List Char) : need none count rest = .ok () := rfl

namespace Cursor

/-- The start of a source. -/
def ofSource (source : Source) : Cursor := ⟨.start, source.chars, source.blocked⟩

/-- Fails iff the next `count` characters reach into an unreadable chunk. -/
def need (c : Cursor) (count : Nat) : Except Fault Unit := Yaml.need c.blocked count c.rest

/-- Goes on by `count` characters of the line. -/
def skip (c : Cursor) (count : Nat) : Cursor :=
  { c with mark := c.mark.passAll (c.rest.take count), rest := c.rest.drop count }

/-- The characters of a class that come next, and the place after them. The class
holds no line break. -/
def span (c : Cursor) (p : Char → Bool) : List Char × Cursor :=
  let taken := c.rest.takeWhile p
  (taken, { c with mark := c.mark.passAll taken, rest := c.rest.drop taken.length })

/-- Goes on past the characters of a class. -/
def skipWhile (c : Cursor) (p : Char → Bool) : Cursor := (c.span p).2

/-- Goes on past the line break that comes next, if one does. -/
def skipBreak (c : Cursor) : Cursor :=
  match c.rest with
  | [] => c
  | b :: rest =>
    if isBreak b then
      let tail := breakTail b rest
      { c with mark := c.mark.nextLine b tail, rest := rest.drop tail }
    else c

/-- Goes on past blanks and a comment, up to the end of the line or to what stands
there instead. -/
def skipRestOfLine (c : Cursor) : Cursor :=
  let c := c.skipWhile isBlank
  if atClass (· == '#') c.rest then c.skipWhile (! isBreak ·) else c

end Cursor
end Yaml
end ApiStubs
