import ApiStubs.Yaml.Token

/-!
# Events

A document as a sequence of events: a scalar or an alias is one event, a collection
is a start, the events of its items, and an end. In a mapping, keys and values take
turns.

Events are generic in what an alias refers to: a name as it was written, or the
position of an event.
-/

namespace ApiStubs
namespace Yaml

/-- What scalars and collections may carry besides their content. -/
structure Properties where
  anchor : Option (List Char)
  tag : Option TagText
  deriving DecidableEq, Repr

namespace Properties

/-- No properties. -/
def none : Properties := ⟨Option.none, Option.none⟩

end Properties

/-- A part of a document. -/
inductive Event (ref : Type) where
  | aliasTo (target : ref)
  | scalar (properties : Properties) (text : List Char) (style : ScalarStyle)
  | sequenceStart (properties : Properties)
  | sequenceEnd
  | mappingStart (properties : Properties)
  | mappingEnd
  deriving DecidableEq, Repr

namespace Event

/-- A scalar that was left out. -/
def empty {ref : Type} : Event ref := scalar .none [] .plain

/-- The name that an event gives to the node that it starts. -/
def anchor? {ref : Type} : Event ref → Option (List Char)
  | scalar properties _ _ => properties.anchor
  | sequenceStart properties => properties.anchor
  | mappingStart properties => properties.anchor
  | _ => none

end Event

/-- An event and the place where it starts. -/
structure Placed (ref : Type) where
  event : Event ref
  mark : Mark
  deriving DecidableEq, Repr

end Yaml
end ApiStubs
