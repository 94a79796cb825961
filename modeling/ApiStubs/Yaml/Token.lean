import ApiStubs.Yaml.Mark

/-!
# Tokens

The tokens of a YAML text. Besides those that stand for characters there are tokens
for the structure that indentation gives: `blockSequenceStart`, `blockMappingStart`
and `blockEnd`, and `key` also stands before a key that no `?` announces.

A tag is a string of bytes, since its escapes can spell any bytes. A zero byte ends
it.
-/

namespace ApiStubs
namespace Yaml

/-- How a scalar was written. Block scalars and quoted ones are alike in what they
mean. -/
inductive ScalarStyle where
  | plain
  | quoted
  | block
  deriving DecidableEq, Repr

/-- The bytes of a tag, or of a part of one. -/
abbrev TagText := List UInt8

/-- What a token stands for. -/
inductive TokenKind where
  | streamStart
  | streamEnd
  | versionDirective (major minor : Nat)
  | tagDirective (handle : List Char) (expansion : TagText)
  | documentStart
  | documentEnd
  | blockSequenceStart
  | blockMappingStart
  | blockEnd
  | flowSequenceStart
  | flowSequenceEnd
  | flowMappingStart
  | flowMappingEnd
  | blockEntry
  | flowEntry
  | key
  | value
  | aliasTo (name : List Char)
  | anchor (name : List Char)
  | tag (handle : List Char) (rest : TagText)
  | scalar (text : List Char) (style : ScalarStyle)
  deriving DecidableEq, Repr

/-- A token and the place where it starts. -/
structure Token where
  kind : TokenKind
  mark : Mark
  deriving DecidableEq, Repr

end Yaml
end ApiStubs
