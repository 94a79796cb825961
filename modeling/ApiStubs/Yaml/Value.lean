import ApiStubs.Decimal.Layout

/-!
# Values

A YAML value is null, a boolean, a number, a string, a sequence, a mapping, or a value
under a tag. Mappings keep the order of their entries, and no two keys of a mapping are
the same.

* `Value.same` says when two values are the same: integers and floating point numbers
  never are, and the order of a mapping does not count.
* `Value.bare` looks through tags.
* `Value.text` writes a value on one line: a string as it stands, a collection in
  brackets. Tags are not written.
-/

namespace ApiStubs
namespace Yaml

/-- A value. The name of a tag is the text after its `!`. -/
inductive Value where
  | null
  | bool (b : Bool)
  | int (n : Int)
  | float (x : Binary64)
  | string (s : String)
  | sequence (items : List Value)
  | mapping (entries : List (Value × Value))
  | tagged (name : String) (value : Value)

namespace Value

/-- A tag name without the `!` at its start, unless that is all of it. -/
def plainTag (name : String) : List Char :=
  match name.toList with
  | '!' :: c :: rest => c :: rest
  | chars => chars

mutual

/-- Whether two values are the same. -/
def same : Value → Value → Bool
  | null, null => true
  | bool a, bool b => a == b
  | int a, int b => a == b
  | float a, float b => a.same b
  | string a, string b => a == b
  | sequence as, sequence bs => sameItems as bs
  | mapping as, mapping bs => as.length == bs.length && allIn as bs
  | tagged s a, tagged t b => plainTag s == plainTag t && same a b
  | _, _ => false

/-- Whether two lists have the same items in the same order. -/
def sameItems : List Value → List Value → Bool
  | [], [] => true
  | a :: as, b :: bs => same a b && sameItems as bs
  | _, _ => false

/-- Whether all entries of one mapping are entries of another one. -/
def allIn : List (Value × Value) → List (Value × Value) → Bool
  | [], _ => true
  | (k, v) :: rest, bs => bs.any (fun entry => same k entry.1 && same v entry.2) && allIn rest bs

end

/-- A value without the tags around it. -/
def bare : Value → Value
  | tagged _ value => value.bare
  | value => value

/-- The value for a key that is a string, not one under a tag. -/
def lookup (key : String) (entries : List (Value × Value)) : Option Value :=
  (entries.find? fun entry =>
    match entry.1 with
    | string s => s == key
    | _ => false).map (·.2)

mutual

/-- The text of a value. -/
def text : Value → String
  | null => "null"
  | bool b => if b then "true" else "false"
  | int n => toString n
  | float x => x.text
  | string s => s
  | sequence items => "[" ++ ", ".intercalate (texts items) ++ "]"
  | mapping entries => "\x7b" ++ ", ".intercalate (entryTexts entries) ++ "\x7d"
  | tagged _ value => text value

/-- The texts of some values. -/
def texts : List Value → List String
  | [] => []
  | item :: rest => text item :: texts rest

/-- The texts of the entries of a mapping. -/
def entryTexts : List (Value × Value) → List String
  | [] => []
  | (key, value) :: rest => (text key ++ ": " ++ text value) :: entryTexts rest

end

end Value
end Yaml
end ApiStubs
