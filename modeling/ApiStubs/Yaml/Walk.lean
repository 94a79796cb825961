import ApiStubs.Yaml.Document
import ApiStubs.Yaml.Error

/-!
# The value of a document

`Value.ofString` reads the only document of a text as a value. The events of the
document are walked once, and at each alias the events of its node once more.

* Collections may be nested 128 deep, with those that aliases bring.
* At most a hundred times as many aliases are followed as the document has events.
* A local tag wraps the value of its node, also that of a key.
* A key is compared with the keys before it when it has been read, before its value is.

An error of a value comes before a fault of the syntax that follows it in the text, and
either comes before the complaint that another document follows.
-/

namespace ApiStubs
namespace Yaml
namespace Value

/-- How deep collections may be nested. -/
def depthLimit : Nat := 128

/-- How many aliases may be followed for each event of the document. -/
def repetitionFactor : Nat := 100

/-- A document whose events are walked: the events that each number of an alias refers
to, and the number of events. -/
structure Walk where
  target : Nat → List (Placed Nat)
  size : Nat
  /-- What is wrong where the events run out. -/
  atEnd : Error

/-- What has been read: a value, the number of aliases followed so far, and the events
after it. -/
abbrev Reading (α : Type) := Except Error (α × Nat × List (Placed Nat))

/-- A way to read the node that comes next. -/
abbrev NodeReader := Path → Nat → List (Placed Nat) → Reading Value

/-- The name of the tag that wraps a value: that of a local tag, without its `!` if
that is not all of it. -/
def wrapperName? (tag : TagText) : Option String :=
  match tag with
  | [] => none
  | mark :: name =>
    if mark = 0x21 then String.fromUTF8? ⟨(if name.isEmpty then tag else name).toArray⟩
    else none

/-- The value of a node with its tag around it, if that is a local one. -/
def wrap (tag : Option TagText) (value : Value) : Value :=
  (tag.bind wrapperName?).elim value (tagged · value)

/-- Reads the items of a sequence and its end. -/
def readItems (walk : Walk) (read : NodeReader) (path : Path) (items : List Value)
    (jumps : Nat) (events : List (Placed Nat)) : Nat → Reading (List Value)
  | 0 => .error walk.atEnd
  | limit + 1 =>
    match events with
    | [] => .error walk.atEnd
    | ⟨.sequenceEnd, _⟩ :: rest => .ok (items.reverse, jumps, rest)
    | _ =>
      match read (.item path items.length) jumps events with
      | .error error => .error error
      | .ok (item, jumps, rest) =>
        readItems walk read path (item :: items) jumps rest limit

/-- The path to the value of the key that comes next. -/
def entryPath (path : Path) : List (Placed Nat) → Path
  | ⟨.scalar _ text _, _⟩ :: _ => .entry path (String.ofList text)
  | _ => .unknown path

/-- Reads the entries of a mapping and its end. `entries` holds those before, from the
end. -/
def readEntries (walk : Walk) (read : NodeReader) (path : Path) (mark : Mark)
    (entries : List (Value × Value)) (jumps : Nat) (events : List (Placed Nat)) :
    Nat → Reading (List (Value × Value))
  | 0 => .error walk.atEnd
  | limit + 1 =>
    match events with
    | [] => .error walk.atEnd
    | ⟨.mappingEnd, _⟩ :: rest => .ok (entries.reverse, jumps, rest)
    | _ =>
      match read path jumps events with
      | .error error => .error error
      | .ok (key, jumps, rest) =>
        match entries.find? fun entry => key.same entry.1 with
        | some entry => .error (.value (.duplicate entry.1) path mark)
        | none =>
          match read (entryPath path events) jumps rest with
          | .error error => .error error
          | .ok (value, jumps, rest) =>
            readEntries walk read path mark ((key, value) :: entries) jumps rest limit

/-- Follows an alias, or reads what is no alias. -/
def follow (walk : Walk) (read : NodeReader) : NodeReader := fun path jumps events =>
  match events with
  | ⟨.aliasTo number, _⟩ :: rest =>
    if walk.size * repetitionFactor < jumps + 1 then .error .repetitionLimit
    else
      -- The events after the node are those of its own place, not of the alias.
      match read (.aliased path) (jumps + 1) (walk.target number) with
      | .error error => .error error
      | .ok (value, jumps, _) => .ok (value, jumps, rest)
  | _ => read path jumps events

/-- Reads a node that is no alias, with at most `depth` collections in each other. -/
def readNode (walk : Walk) : Nat → NodeReader
  | _, path, jumps, ⟨.scalar properties text style, mark⟩ :: rest =>
    match Scalar.value properties.tag text style with
    | .error fault => .error (.value (.scalar fault) path mark)
    | .ok value => .ok (wrap properties.tag value, jumps, rest)
  | 0, _, _, ⟨.sequenceStart _, mark⟩ :: _ => .error (.recursionLimit mark)
  | 0, _, _, ⟨.mappingStart _, mark⟩ :: _ => .error (.recursionLimit mark)
  | depth + 1, path, jumps, ⟨.sequenceStart properties, _⟩ :: rest =>
    match readItems walk (follow walk (readNode walk depth)) path [] jumps rest
      (walk.size + 1) with
    | .error error => .error error
    | .ok (items, jumps, rest) =>
      .ok (wrap properties.tag (.sequence items), jumps, rest)
  | depth + 1, path, jumps, ⟨.mappingStart properties, mark⟩ :: rest =>
    match readEntries walk (follow walk (readNode walk depth)) path mark [] jumps rest
      (walk.size + 1) with
    | .error error => .error error
    | .ok (entries, jumps, rest) => .ok (wrap properties.tag (.mapping entries), jumps, rest)
  | _, _, _, _ => .error walk.atEnd

/-- Prepares the events of a document to be walked. -/
def walkOf (document : Document (List Char) Fault) : Walk × List (Placed Nat) × Option Error :=
  let (anchors, events, unknown) := Document.bindFrom .none 0 [] document.events
  let fault : Option Error :=
    match unknown with
    | some mark => some (.unknownAnchor mark)
    | none => document.fault.map .fault
  let walk : Walk :=
    { target := fun number => (anchors.position? number).elim [] events.drop
      size := events.length
      atEnd := fault.getD .endOfEvents }
  (walk, events, fault)

/-- The value of a document, if the stream ends after it. -/
def ofDocument (document : Document (List Char) Fault) : Except Error Value :=
  let (walk, events, fault) := walkOf document
  match follow walk (readNode walk depthLimit) .root 0 events with
  | .error error => .error error
  | .ok (value, _, _) =>
    match fault with
    | some error => .error error
    | none => if document.alone then .ok value else .error .severalDocuments

/-- The value of the only document of a text. -/
def ofString (text : String) : Except Error Value :=
  ofDocument (.ofString text)

end Value
end Yaml
end ApiStubs
