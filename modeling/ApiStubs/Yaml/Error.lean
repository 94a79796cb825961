import ApiStubs.Text.Quoted
import ApiStubs.Yaml.Fault
import ApiStubs.Yaml.Scalar

/-!
# Errors

Why a text has no value. Besides a fault of the syntax, an alias may have no anchor,
collections may be nested too deep, aliases may repeat too much, there may be more than
one document, and a value may be wrong at a `Path` in the document.

`Error.message` words an error. Wrong values name their path, unless it is the root.
-/

namespace ApiStubs
namespace Yaml

/-- The way to a value: from item to item, through the keys of mappings and through
aliases. A key that is no scalar is unknown. -/
inductive Path where
  | root
  | item (parent : Path) (index : Nat)
  | entry (parent : Path) (key : String)
  | unknown (parent : Path)
  | aliased (parent : Path)
  deriving DecidableEq, Repr

namespace Path

/-- A path in words. -/
def text : Path → String
  | root => "."
  | item parent index => parent.text ++ "[" ++ toString index ++ "]"
  | entry root key => key
  | entry parent key => parent.text ++ "." ++ key
  | unknown root => "?"
  | unknown parent => parent.text ++ ".?"
  | aliased parent => parent.text

/-- A path as the start of a message. -/
def lead (path : Path) : String :=
  let text := path.text
  if text = "." then "" else text ++ ": "

end Path

/-- What is wrong with a value. -/
inductive ValueFault where
  | scalar (fault : ScalarFault)
  | duplicate (key : Value)

namespace ScalarFault

/-- A fault of a scalar in words. -/
def message : ScalarFault → String
  | wideInteger n =>
    "invalid type: integer \x60" ++ toString n ++ "\x60 as " ++
      (if n < 0 then "i128" else "u128") ++ ", expected any YAML value"
  | mismatch expected text =>
    "invalid value: string " ++ Text.quote text ++ ", expected " ++ expected.description

end ScalarFault

namespace ValueFault

/-- The key that a message about equal keys names. -/
def keyText : Value → String
  | .null => "with null key"
  | .bool b => "with key \x60" ++ (Value.bool b).text ++ "\x60"
  | .int n => "with key " ++ (Value.int n).text
  | .float x => "with key " ++ x.text
  | .string s => "with key " ++ Text.quote s
  | _ => "in YAML map"

/-- What is wrong, in words. -/
def message : ValueFault → String
  | scalar fault => fault.message
  | duplicate key => "duplicate entry " ++ keyText key

end ValueFault

/-- Why a text has no value. -/
inductive Error where
  | fault (fault : Fault)
  | unknownAnchor (mark : Mark)
  | recursionLimit (mark : Mark)
  | repetitionLimit
  | severalDocuments
  | endOfEvents
  | value (fault : ValueFault) (path : Path) (mark : Mark)

namespace Error

/-- An error in words. -/
def message : Error → String
  | fault f => f.message
  | unknownAnchor mark => "unknown anchor" ++ mark.suffix
  | recursionLimit mark => "recursion limit exceeded" ++ mark.suffix
  | repetitionLimit => "repetition limit exceeded"
  | severalDocuments =>
    "deserializing from YAML containing more than one document is not supported"
  | endOfEvents => "EOF while parsing a value"
  | value f path mark => path.lead ++ f.message ++ mark.suffix

end Error
end Yaml
end ApiStubs
