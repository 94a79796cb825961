import ApiStubs.Yaml.Grammar
import ApiStubs.Yaml.Tokens

/-!
# Documents

`Document.ofTokens` reads the first document of a stream of tokens: its directives, and
the events of its content up to its end or to a fault. `alone` says whether the stream
ends after it.

`Document.bindFrom` gives each anchor a number and has aliases refer to numbers. A number is
the count of different names so far, so a name that is used again does not raise the
number of the next new one; of two nodes with one number, the later is meant. An alias
without an anchor ends the document.

A stream without a document reads as one that holds an empty scalar.
-/

namespace ApiStubs
namespace Yaml

/-- The first document of a stream, in events whose aliases refer to `ref`. -/
structure Document (ref : Type) (fault : Type) where
  events : List (Placed ref)
  fault : Option fault
  alone : Bool

/-! ### Directives -/

/-- The directives of a document: whether it has a version, and its tag handles. -/
structure Directives where
  versioned : Bool
  handles : Handles

namespace Directives

/-- No directives. -/
def none : Directives := ⟨false, []⟩

/-- The handles of the directives, and the default ones. -/
def allHandles (d : Directives) : Handles := d.handles ++ Handles.default

/-- Reads the directives at the start of a document. -/
def read (d : Directives) : List Token → Except Stop (Directives × List Token)
  | [] => .error .noToken
  | token :: rest =>
    match token.kind with
    | .versionDirective major minor =>
      if d.versioned then .error (.fault (.found .duplicateVersion token.mark Option.none))
      else if major = 1 ∧ (minor = 1 ∨ minor = 2) then read { d with versioned := true } rest
      else .error (.fault (.found .incompatibleVersion token.mark Option.none))
    | .tagDirective handle expansion =>
      if (d.handles.expand? handle).isSome then
        .error (.fault (.found .duplicateTagDirective token.mark Option.none))
      else read { d with handles := d.handles ++ [(handle, expansion)] } rest
    | _ => .ok (d, token :: rest)

end Directives

namespace Document

/-! ### Content -/

/-- The events of a content, and what remains: the tokens after it, or why there are no
more events. -/
structure Content where
  events : List (Placed (List Char))
  rest : Except Stop (List Token)

/-- Takes steps until nothing is expected any more, `limit` steps at most. `done` holds
the events so far, from the end. -/
def readContent (handles : Handles) (done : List (Placed (List Char)))
    (expected : List Expectation) (tokens : List Token) : Nat → Content
  | 0 => ⟨done.reverse, .error .noToken⟩
  | limit + 1 =>
    match expected, tokens with
    | [], _ => ⟨done.reverse, .ok tokens⟩
    | _ :: _, [] => ⟨done.reverse, .error .noToken⟩
    | top :: others, token :: rest =>
      match top.step handles token rest with
      | .error stop => ⟨done.reverse, .error stop⟩
      | .ok step =>
        readContent handles (step.event.toList ++ done) (step.next ++ others) step.rest limit

/-- A bound for the number of steps: each token that is passed brings at most three
expectations, each of which is met in at most three steps without passing another. -/
def stepLimit (tokens : List Token) : Nat := 10 * (tokens.length + 1)

/-- Whether the stream ends after a document whose end comes next. -/
def endsStream : List Token → Bool
  | [] => false
  | token :: rest =>
    match token.kind with
    | .documentEnd => endsStream rest
    | .streamEnd => true
    | _ => false

/-- The fault that a stop means, in a stream that ends with `fault`. -/
def faultOf (fault : Option Fault) : Stop → Option Fault
  | .noToken => fault
  | .fault f => some f

/-- A document that ends in its directives. -/
def stopped (fault : Option Fault) (stop : Stop) : Document (List Char) Fault :=
  ⟨[], faultOf fault stop, false⟩

/-- Reads the content of a document, and its end. -/
def ofContent (fault : Option Fault) (handles : Handles) (expected : Expectation)
    (tokens : List Token) : Document (List Char) Fault :=
  let content := readContent handles [] [expected] tokens (stepLimit tokens)
  match content.rest with
  | .error stop => { stopped fault stop with events := content.events }
  -- The token after the content has to be there, whatever it is.
  | .ok [] => { stopped fault .noToken with events := content.events }
  | .ok rest => ⟨content.events, none, endsStream rest⟩

/-- Reads a document with its directives, if it has any. -/
def ofStart (fault : Option Fault) (tokens : List Token) : Document (List Char) Fault :=
  match tokens with
  | [] => stopped fault .noToken
  | token :: _ =>
    match token.kind with
    | .streamEnd => ⟨[⟨.empty, token.mark⟩], none, true⟩
    | .versionDirective .. | .tagDirective .. | .documentStart =>
      match Directives.none.read tokens with
      | .error stop => stopped fault stop
      | .ok (_, []) => stopped fault .noToken
      | .ok (directives, token :: rest) =>
        if token.kind = .documentStart then
          ofContent fault directives.allHandles .content rest
        else stopped fault (.fault (.found .expectedDocumentStart token.mark none))
    | _ => ofContent fault Directives.none.allHandles (.node true false) tokens

/-- Reads the first document of a stream, whose first token says that it starts. -/
def ofTokens (tokens : Tokens) : Document (List Char) Fault :=
  ofStart tokens.fault (tokens.list.drop 1)

/-- Reads the first document of a text. -/
def ofString (text : String) : Document (List Char) Fault :=
  ofTokens (.ofSource (.ofString text))

/-! ### Aliases -/

/-- The anchors of a document so far: the number of each name, and the position of the
event to which each number belongs. In both lists the last entry comes first. -/
structure Anchors where
  names : List (List Char × Nat)
  positions : List (Nat × Nat)

namespace Anchors

/-- No anchors. -/
def none : Anchors := ⟨[], []⟩

/-- The number that a name has now. -/
def number? (a : Anchors) (name : List Char) : Option Nat :=
  (a.names.find? (·.1 == name)).map (·.2)

/-- Gives a name to the event at a position. -/
def add (a : Anchors) (name : List Char) (position : Nat) : Anchors :=
  let number := a.names.length
  ⟨(name, number) :: a.names.filter (·.1 != name), (number, position) :: a.positions⟩

/-- The position of the event to which a number belongs. -/
def position? (a : Anchors) (number : Nat) : Option Nat :=
  (a.positions.find? (·.1 == number)).map (·.2)

end Anchors

/-- Numbers the aliases of events, up to one whose name is unknown. `count` events have
gone before, and `done` holds them from the end. -/
def bindFrom (anchors : Anchors) (count : Nat) (done : List (Placed Nat)) :
    List (Placed (List Char)) → Anchors × List (Placed Nat) × Option Mark
  | [] => (anchors, done.reverse, none)
  | ⟨event, mark⟩ :: rest =>
    -- A node can hold an alias to itself, so its name counts from its start on.
    let anchors := event.anchor?.elim anchors (anchors.add · count)
    match event with
    | .aliasTo name =>
      match anchors.number? name with
      | some number => bindFrom anchors (count + 1) (⟨.aliasTo number, mark⟩ :: done) rest
      | none => (anchors, done.reverse, some mark)
    | .scalar properties text style =>
      bindFrom anchors (count + 1) (⟨.scalar properties text style, mark⟩ :: done) rest
    | .sequenceStart properties =>
      bindFrom anchors (count + 1) (⟨.sequenceStart properties, mark⟩ :: done) rest
    | .sequenceEnd => bindFrom anchors (count + 1) (⟨.sequenceEnd, mark⟩ :: done) rest
    | .mappingStart properties =>
      bindFrom anchors (count + 1) (⟨.mappingStart properties, mark⟩ :: done) rest
    | .mappingEnd => bindFrom anchors (count + 1) (⟨.mappingEnd, mark⟩ :: done) rest

end Document
end Yaml
end ApiStubs
