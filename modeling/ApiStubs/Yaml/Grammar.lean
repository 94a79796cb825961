import ApiStubs.Yaml.Event
import ApiStubs.Yaml.Fault
import ApiStubs.Yaml.Token.Tag

/-!
# The grammar of documents

Tokens are read as events by a machine with a stack. Each entry of the stack is an
`Expectation`, something that has still to come, the nearest one on top. A step looks
at the next token, replaces the topmost expectation by others, passes some tokens and
yields at most one event (`Expectation.step`).

Where a node may be left out, an empty scalar stands for it.
-/

namespace ApiStubs
namespace Yaml

/-- The tag handles of a document, each with the text for which it stands. -/
abbrev Handles := List (List Char × TagText)

namespace Handles

/-- The two handles that stand for something without a directive. -/
def default : Handles :=
  [(['!'], Tag.bytesOf ['!']),
    (['!', '!'], Tag.bytesOf "tag:yaml.org,2002:".toList)]

/-- The text for which the first handle of that name stands. -/
def expand? (handles : Handles) (handle : List Char) : Option TagText :=
  (handles.find? (·.1 == handle)).map (·.2)

end Handles

/-- Why there is no next event: a fault, or there is no next token. -/
inductive Stop where
  | noToken
  | fault (f : Fault)
  deriving DecidableEq, Repr

/-- Places where a node may be left out. -/
inductive Place where
  | blockItem
  | indentlessItem
  | blockPart
  | flowKey
  | flowValue
  | pairValue
  deriving DecidableEq, Repr

namespace Place

/-- Whether a token shows that the node has been left out. -/
def isOmittedAt : Place → TokenKind → Bool
  | blockItem, .blockEntry | blockItem, .blockEnd => true
  | indentlessItem, .blockEntry | indentlessItem, .key | indentlessItem, .value
  | indentlessItem, .blockEnd => true
  | blockPart, .key | blockPart, .value | blockPart, .blockEnd => true
  | flowKey, .value | flowKey, .flowEntry | flowKey, .flowMappingEnd => true
  | flowValue, .flowEntry | flowValue, .flowMappingEnd => true
  | pairValue, .flowEntry | pairValue, .flowSequenceEnd => true
  | _, _ => false

/-- Whether block collections may stand in the place. -/
def allowsBlock : Place → Bool
  | blockItem | indentlessItem | blockPart => true
  | flowKey | flowValue | pairValue => false

/-- Whether a sequence may stand in the place without being indented. -/
def allowsIndentless : Place → Bool
  | blockPart => true
  | _ => false

end Place

/-- What has still to come. The marks are those of the start of the collection. -/
inductive Expectation where
  /-- The content of a document, which may be missing. -/
  | content
  /-- A node. -/
  | node (block indentless : Bool)
  /-- A node, unless it has been left out. -/
  | optional (place : Place)
  /-- A dash, or the end of the sequence. -/
  | blockItems (since : Mark)
  /-- A dash, or something else after the sequence. -/
  | indentlessItems
  /-- A key of a block mapping, or its end. -/
  | blockKeys (since : Mark)
  /-- The value for a key of a block mapping. -/
  | blockValue
  /-- An item of a flow sequence, or its end. -/
  | flowItem (since : Mark)
  /-- A comma in a flow sequence, or its end. -/
  | flowItems (since : Mark)
  /-- The key of a pair that is an item of a flow sequence. If it has been left out, the
  token that shows so is passed. -/
  | pairKey
  /-- The value of such a pair. -/
  | pairMapped
  /-- The end of such a pair. -/
  | pairEnd
  /-- A key of a flow mapping, or its end. -/
  | flowKeys (since : Mark)
  /-- A comma in a flow mapping, or its end. -/
  | flowPairs (since : Mark)
  /-- The value for a key of a flow mapping. -/
  | flowMapped
  /-- The value for a key of a flow mapping that no question mark or colon shows. -/
  | flowUnmapped
  deriving DecidableEq, Repr

/-- What a step yields: an event or none, the expectations in place of the topmost one,
and the tokens that remain. -/
structure Step where
  event : Option (Placed (List Char))
  next : List Expectation
  rest : List Token

namespace Step

/-- A step that yields an event at a mark. -/
def yield (event : Event (List Char)) (mark : Mark) (next : List Expectation)
    (rest : List Token) : Step :=
  ⟨some ⟨event, mark⟩, next, rest⟩

/-- A step that yields none. -/
def silent (next : List Expectation) (rest : List Token) : Step := ⟨none, next, rest⟩

end Step

/-- A tag as it was written: its handle, the rest, and its place. -/
structure WrittenTag where
  handle : List Char
  rest : TagText
  mark : Mark

namespace WrittenTag

/-- The text of a tag. -/
def resolve (handles : Handles) (since : Mark) (tag : WrittenTag) : Except Stop TagText :=
  if tag.handle.isEmpty then .ok tag.rest
  else
    match handles.expand? tag.handle with
    | some expansion => .ok (expansion ++ tag.rest)
    | none => .error (.fault (.within .parsingNode since .undefinedTagHandle tag.mark))

end WrittenTag

/-- Reads an anchor and a tag, in either order, before a node. -/
def readProperties : List Token →
    (Option (List Char) × Option WrittenTag) × List Token
  | ⟨.anchor name, _⟩ :: ⟨.tag handle suffix, m⟩ :: rest =>
    ((some name, some ⟨handle, suffix, m⟩), rest)
  | ⟨.tag handle suffix, m⟩ :: ⟨.anchor name, _⟩ :: rest =>
    ((some name, some ⟨handle, suffix, m⟩), rest)
  | ⟨.anchor name, _⟩ :: rest => ((some name, none), rest)
  | ⟨.tag handle suffix, m⟩ :: rest => ((none, some ⟨handle, suffix, m⟩), rest)
  | rest => ((none, none), rest)

/-- Reads a node, or the start of one, after its properties. -/
def stepContent (block indentless : Bool) (since : Mark) (properties : Properties) :
    List Token → Except Stop Step
  | [] => .error .noToken
  | ⟨kind, mark⟩ :: rest =>
    match kind, block, indentless with
    | .blockEntry, _, true =>
      .ok (.yield (.sequenceStart properties) since [.indentlessItems] (⟨kind, mark⟩ :: rest))
    | .scalar text style, _, _ =>
      .ok (.yield (.scalar properties text style) since [] rest)
    | .flowSequenceStart, _, _ =>
      .ok (.yield (.sequenceStart properties) since [.flowItem mark] rest)
    | .flowMappingStart, _, _ =>
      .ok (.yield (.mappingStart properties) since [.flowKeys mark] rest)
    | .blockSequenceStart, true, _ =>
      .ok (.yield (.sequenceStart properties) since [.blockItems mark] rest)
    | .blockMappingStart, true, _ =>
      .ok (.yield (.mappingStart properties) since [.blockKeys mark] rest)
    | _, _, _ =>
      if properties = .none then
        .error (.fault (.within (if block then .parsingBlockNode else .parsingFlowNode) since
          .expectedNode mark))
      else .ok (.yield (.scalar properties [] .plain) since [] (⟨kind, mark⟩ :: rest))

/-- Reads an alias, or the start of a node with its properties. -/
def stepNode (handles : Handles) (block indentless : Bool) (token : Token)
    (rest : List Token) : Except Stop Step :=
  match token.kind with
  | .aliasTo name => .ok (.yield (.aliasTo name) token.mark [] rest)
  | _ => do
    let ((anchor, tag), content) := readProperties (token :: rest)
    if content.isEmpty then .error .noToken
    -- An unknown handle is told before anything about the content.
    else
      let tag ← tag.mapM (·.resolve handles token.mark)
      stepContent block indentless token.mark ⟨anchor, tag⟩ content

/-- Reads on where `expected` is the nearest expectation and `token` the next token. -/
def Expectation.step (handles : Handles) (expected : Expectation) (token : Token)
    (rest : List Token) : Except Stop Step :=
  let all := token :: rest
  let refuse (activity : Activity) (since : Mark) (problem : Problem) :=
    Except.error (Stop.fault (.within activity since problem token.mark))
  match expected with
  | content =>
    match token.kind with
    | .versionDirective .. | .tagDirective .. | .documentStart | .documentEnd | .streamEnd =>
      .ok (.yield .empty token.mark [] all)
    | _ => .ok (.silent [.node true false] all)
  | node block indentless => stepNode handles block indentless token rest
  | optional place =>
    if place.isOmittedAt token.kind then .ok (.yield .empty token.mark [] all)
    else .ok (.silent [.node place.allowsBlock place.allowsIndentless] all)
  | blockItems since =>
    match token.kind with
    | .blockEntry => .ok (.silent [.optional .blockItem, .blockItems since] rest)
    | .blockEnd => .ok (.yield .sequenceEnd token.mark [] rest)
    | _ => refuse .parsingBlockCollection since .expectedDash
  | indentlessItems =>
    match token.kind with
    | .blockEntry => .ok (.silent [.optional .indentlessItem, .indentlessItems] rest)
    | _ => .ok (.yield .sequenceEnd token.mark [] all)
  | blockKeys since =>
    match token.kind with
    | .key => .ok (.silent [.optional .blockPart, .blockValue, .blockKeys since] rest)
    | .blockEnd => .ok (.yield .mappingEnd token.mark [] rest)
    | _ => refuse .parsingBlockMapping since .expectedKey
  | blockValue =>
    match token.kind with
    | .value => .ok (.silent [.optional .blockPart] rest)
    | _ => .ok (.yield .empty token.mark [] all)
  | flowItem since =>
    match token.kind with
    | .flowSequenceEnd => .ok (.yield .sequenceEnd token.mark [] rest)
    | .key =>
      .ok (.yield (.mappingStart .none) token.mark
        [.pairKey, .pairMapped, .pairEnd, .flowItems since] rest)
    | _ => .ok (.silent [.node false false, .flowItems since] all)
  | flowItems since =>
    match token.kind with
    | .flowSequenceEnd => .ok (.yield .sequenceEnd token.mark [] rest)
    | .flowEntry => .ok (.silent [.flowItem since] rest)
    | _ => refuse .parsingFlowSequence since .expectedCommaOrBracket
  | pairKey =>
    match token.kind with
    | .value | .flowEntry | .flowSequenceEnd => .ok (.yield .empty token.mark [] rest)
    | _ => .ok (.silent [.node false false] all)
  | pairMapped =>
    match token.kind with
    | .value => .ok (.silent [.optional .pairValue] rest)
    | _ => .ok (.yield .empty token.mark [] all)
  | pairEnd => .ok (.yield .mappingEnd token.mark [] all)
  | flowKeys since =>
    match token.kind with
    | .flowMappingEnd => .ok (.yield .mappingEnd token.mark [] rest)
    | .key => .ok (.silent [.optional .flowKey, .flowMapped, .flowPairs since] rest)
    | _ => .ok (.silent [.node false false, .flowUnmapped, .flowPairs since] all)
  | flowPairs since =>
    match token.kind with
    | .flowMappingEnd => .ok (.yield .mappingEnd token.mark [] rest)
    | .flowEntry => .ok (.silent [.flowKeys since] rest)
    | _ => refuse .parsingFlowMapping since .expectedCommaOrBrace
  | flowMapped =>
    match token.kind with
    | .value => .ok (.silent [.optional .flowValue] rest)
    | _ => .ok (.yield .empty token.mark [] all)
  | flowUnmapped => .ok (.yield .empty token.mark [] all)

end Yaml
end ApiStubs
