import ApiStubs.Description
import ApiStubs.Yaml.Walk

/-!
# Reading a description

A description is written as a YAML mapping from categories to mappings, whose key
`functions` lists the functions of the category:

* a sequence `[name, return type, comment]` is a shorthand entry; what follows the third
  item does not count,
* a mapping with one key `[name, return type, comment, link]` is a full entry, if its value
  lists pairs `[name, type]`, and a degraded one for any other value.

Tags are looked through everywhere. A field may be any value, of which the text is taken.

`Reading.ofValue` picks out one category of a value and does not look at others, and
`Reading.ofString` starts from the text. Entries are read in order, up to the first one
that is malformed.
-/

namespace ApiStubs

open Yaml (Value)

/-- Why an item of a list of functions is no entry. -/
inductive Malformation where
  | tooFewFields
  | notOneKey
  | wrongKey
  | wrongShape
  deriving DecidableEq, Repr

namespace Malformation

/-- A malformation in words. -/
def message : Malformation → String
  | tooFewFields => "shorthand entry needs [name, return-type, comment]"
  | notOneKey => "full entry must be a mapping with exactly one key"
  | wrongKey => "full entry key must be [name, return-type, comment, link]"
  | wrongShape => "expected a sequence or a single-entry mapping"

end Malformation

/-- Why a category of a description could not be read. -/
inductive LoadError where
  | syntactic (error : Yaml.Error)
  | rootNotMapping
  | missingCategory (category : String)
  | categoryNotMapping (category : String)
  | missingFunctions (category : String)
  | functionsNotSequence (category : String)
  | malformedEntry (index : Nat) (reason : Malformation)

namespace LoadError

/-- An error in words. -/
def message : LoadError → String
  | syntactic error => "invalid YAML: " ++ error.message
  | rootNotMapping => "top level of the API description must be a mapping"
  | missingCategory category =>
    "category '" ++ category ++ "' not found in the API description"
  | categoryNotMapping category => "category '" ++ category ++ "' must be a mapping"
  | missingFunctions category => "category '" ++ category ++ "' has no 'functions' key"
  | functionsNotSequence category => "'" ++ category ++ ".functions' must be a sequence"
  | malformedEntry index reason =>
    "function entry #" ++ toString index ++ ": " ++ reason.message

/-- What an error says and, for an error of the text, once more what lies beneath. -/
def chain (error : LoadError) : List String :=
  match error with
  | syntactic cause => [error.message, cause.message]
  | _ => [error.message]

end LoadError

namespace Param

/-- A parameter, from a sequence of two items. -/
def ofValue? (value : Value) : Option Param :=
  match value.bare with
  | .sequence [name, type] => some ⟨name.text, type.text⟩
  | _ => none

/-- Parameters, from a sequence of such sequences. -/
def listOfValue? (value : Value) : Option (List Param) :=
  match value.bare with
  | .sequence items => items.mapM ofValue?
  | _ => none

end Param

namespace Signature

/-- A signature, from a sequence of four items. -/
def ofValue? (value : Value) : Option Signature :=
  match value.bare with
  | .sequence [name, returnType, comment, link] =>
    some ⟨name.text, returnType.text, comment.text, link.text⟩
  | _ => none

end Signature

namespace Entry

/-- A full entry, or a degraded one where the value gives no parameters. -/
def ofSignature (signature : Signature) (value : Value) : Entry :=
  match Param.listOfValue? value with
  | some params => full signature params
  | none => degraded signature value.text

/-- The entry that an item of a list of functions describes. -/
def ofValue (value : Value) : Except Malformation Entry :=
  match value.bare with
  | .sequence (name :: returnType :: comment :: _) =>
    .ok (shorthand name.text returnType.text comment.text)
  | .sequence _ => .error .tooFewFields
  | .mapping [(key, value)] =>
    match Signature.ofValue? key with
    | some signature => .ok (ofSignature signature value)
    | none => .error .wrongKey
  | .mapping _ => .error .notOneKey
  | _ => .error .wrongShape

end Entry

/-- What has been read of a list of functions: the entries up to the first malformed
item, and that item's fault. -/
structure EntryList where
  entries : List Entry
  fault : Option (Nat × Malformation)
  deriving DecidableEq, Repr

namespace EntryList

/-- Reads the items from number `index` on. -/
def ofItems (index : Nat) : List Value → EntryList
  | [] => ⟨[], none⟩
  | item :: rest =>
    match Entry.ofValue item with
    | .error reason => ⟨[], some (index, reason)⟩
    | .ok entry =>
      let others := ofItems (index + 1) rest
      { others with entries := entry :: others.entries }

/-- All entries, if none is malformed. -/
def result (list : EntryList) : Except LoadError (List Entry) :=
  match list.fault with
  | some (index, reason) => .error (.malformedEntry index reason)
  | none => .ok list.entries

end EntryList

namespace Reading

/-- The list of functions of a category. -/
def functionsOf (category : String) (root : Value) : Except LoadError (List Value) :=
  match root.bare with
  | .mapping categories =>
    match Value.lookup category categories with
    | none => .error (.missingCategory category)
    | some spec =>
      match spec.bare with
      | .mapping keys =>
        match Value.lookup "functions" keys with
        | none => .error (.missingFunctions category)
        | some functions =>
          match functions.bare with
          | .sequence items => .ok items
          | _ => .error (.functionsNotSequence category)
      | _ => .error (.categoryNotMapping category)
  | _ => .error .rootNotMapping

/-- The entries of a category of a value, up to the first malformed one. -/
def entriesOfValue (category : String) (root : Value) : Except LoadError EntryList :=
  (functionsOf category root).map (EntryList.ofItems 0)

/-- The entries of a category of a text, up to the first malformed one. -/
def entriesOfString (category content : String) : Except LoadError EntryList :=
  match Value.ofString content with
  | .error error => .error (.syntactic error)
  | .ok root => entriesOfValue category root

/-- A description of one category. -/
def describe (category : String) (list : EntryList) : Except LoadError Description :=
  list.result.map fun entries => ⟨[(category, entries)]⟩

/-- The description that a value gives of one category. -/
def ofValue (category : String) (root : Value) : Except LoadError Description :=
  (entriesOfValue category root).bind (describe category)

/-- The description that a text gives of one category. -/
def ofString (category content : String) : Except LoadError Description :=
  (entriesOfString category content).bind (describe category)

end Reading
end ApiStubs
