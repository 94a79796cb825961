/-!
# Descriptions of an API

An API description lists functions by category. An entry has one of three forms,
according to how much its author wrote down:

* `Entry.shorthand` has a name, a return type and a comment,
* `Entry.full` has a link and a list of parameters as well,
* `Entry.degraded` has the same signature as a full entry, but its parameters
  could not be read, so their text is kept as it stands.

Names and types are texts: whatever was written is carried along, also where it
is no identifier.
-/

namespace ApiStubs

/-- A parameter: its name and the text of its type. -/
structure Param where
  name : String
  type : String
  deriving DecidableEq, Repr

/-- What full and degraded entries say about a function besides its parameters.
`link` is relative to the address of the online documentation. -/
structure Signature where
  name : String
  returnType : String
  comment : String
  link : String
  deriving DecidableEq, Repr

/-- One described function. -/
inductive Entry where
  | shorthand (name returnType comment : String)
  | full (signature : Signature) (params : List Param)
  | degraded (signature : Signature) (raw : String)
  deriving DecidableEq, Repr

namespace Entry

/-- The name of the described function. -/
def name : Entry → String
  | shorthand name _ _ => name
  | full signature _ => signature.name
  | degraded signature _ => signature.name

/-- The parameters that are known: those of a full entry. -/
def params : Entry → List Param
  | full _ params => params
  | _ => []

end Entry

/-- The functions of some categories, in the order in which they were listed. -/
structure Description where
  categories : List (String × List Entry)
  deriving DecidableEq, Repr

namespace Description

/-- The functions of the first category of that name. -/
def category? (description : Description) (category : String) : Option (List Entry) :=
  (description.categories.find? fun listed => listed.1 == category).map (·.2)

end Description
end ApiStubs
