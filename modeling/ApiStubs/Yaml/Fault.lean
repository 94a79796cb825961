import ApiStubs.Yaml.Mark

/-!
# Faults of the syntax

A `Fault` says why a text is no YAML document: it holds a control character, or a
`Problem` was found at some place. Most problems name the `Activity` during which
they were found and the place where that began.

`Fault.message` words a fault. The place of the activity is left out where it is
also the place of the problem.
-/

namespace ApiStubs
namespace Yaml

/-- What can be wrong at a place. -/
inductive Problem where
  | characterStartsNoToken
  | expectedColon
  | blockEntryNotAllowed
  | mappingKeyNotAllowed
  | mappingValueNotAllowed
  | expectedDirectiveName
  | nonAlphabeticCharacter
  | unknownDirectiveName
  | expectedCommentOrBreak
  | versionTooLong
  | expectedVersion
  | expectedDigitOrDot
  | duplicateVersion
  | incompatibleVersion
  | duplicateTagDirective
  | expectedWhitespace
  | expectedWhitespaceOrBreak
  | expectedExclamation
  | expectedTagUri
  | expectedUriOctet
  | badLeadingOctet
  | badTrailingOctet
  | expectedClosingAngle
  | undefinedTagHandle
  | expectedAnchorName
  | zeroIndentation
  | tabForIndentation
  | tabViolatesIndentation
  | documentIndicator
  | endOfStream
  | unknownEscape
  | expectedHexadecimal
  | invalidCharacterCode
  | colonInFlowScalar
  | expectedDocumentStart
  | expectedNode
  | expectedDash
  | expectedKey
  | expectedCommaOrBracket
  | expectedCommaOrBrace
  deriving DecidableEq, Repr

namespace Problem

/-- A problem in words. -/
def message : Problem → String
  | characterStartsNoToken => "found character that cannot start any token"
  | expectedColon => "could not find expected ':'"
  | blockEntryNotAllowed => "block sequence entries are not allowed in this context"
  | mappingKeyNotAllowed => "mapping keys are not allowed in this context"
  | mappingValueNotAllowed => "mapping values are not allowed in this context"
  | expectedDirectiveName => "could not find expected directive name"
  | nonAlphabeticCharacter => "found unexpected non-alphabetical character"
  | unknownDirectiveName => "found unknown directive name"
  | expectedCommentOrBreak => "did not find expected comment or line break"
  | versionTooLong => "found extremely long version number"
  | expectedVersion => "did not find expected version number"
  | expectedDigitOrDot => "did not find expected digit or '.' character"
  | duplicateVersion => "found duplicate %YAML directive"
  | incompatibleVersion => "found incompatible YAML document"
  | duplicateTagDirective => "found duplicate %TAG directive"
  | expectedWhitespace => "did not find expected whitespace"
  | expectedWhitespaceOrBreak => "did not find expected whitespace or line break"
  | expectedExclamation => "did not find expected '!'"
  | expectedTagUri => "did not find expected tag URI"
  | expectedUriOctet => "did not find URI escaped octet"
  | badLeadingOctet => "found an incorrect leading UTF-8 octet"
  | badTrailingOctet => "found an incorrect trailing UTF-8 octet"
  | expectedClosingAngle => "did not find the expected '>'"
  | undefinedTagHandle => "found undefined tag handle"
  | expectedAnchorName => "did not find expected alphabetic or numeric character"
  | zeroIndentation => "found an indentation indicator equal to 0"
  | tabForIndentation => "found a tab character where an indentation space is expected"
  | tabViolatesIndentation => "found a tab character that violates indentation"
  | documentIndicator => "found unexpected document indicator"
  | endOfStream => "found unexpected end of stream"
  | unknownEscape => "found unknown escape character"
  | expectedHexadecimal => "did not find expected hexadecimal number"
  | invalidCharacterCode => "found invalid Unicode character escape code"
  | colonInFlowScalar => "found unexpected ':'"
  | expectedDocumentStart => "did not find expected <document start>"
  | expectedNode => "did not find expected node content"
  | expectedDash => "did not find expected '-' indicator"
  | expectedKey => "did not find expected key"
  | expectedCommaOrBracket => "did not find expected ',' or ']'"
  | expectedCommaOrBrace => "did not find expected ',' or '\x7d'"

end Problem

/-- What was going on when a problem was found. -/
inductive Activity where
  | scanningToken
  | scanningSimpleKey
  | scanningDirective
  | scanningVersionDirective
  | scanningTagDirective
  | scanningTagDirectiveHandle
  | parsingTagDirectiveHandle
  | parsingTagDirectivePrefix
  | scanningTag
  | parsingTag
  | scanningAnchor
  | scanningAlias
  | scanningBlockScalar
  | scanningQuotedScalar
  | parsingQuotedScalar
  | scanningPlainScalar
  | parsingNode
  | parsingBlockNode
  | parsingFlowNode
  | parsingBlockCollection
  | parsingBlockMapping
  | parsingFlowSequence
  | parsingFlowMapping
  deriving DecidableEq, Repr

namespace Activity

/-- An activity in words. -/
def message : Activity → String
  | scanningToken => "while scanning for the next token"
  | scanningSimpleKey => "while scanning a simple key"
  | scanningDirective => "while scanning a directive"
  | scanningVersionDirective => "while scanning a %YAML directive"
  | scanningTagDirective => "while scanning a %TAG directive"
  | scanningTagDirectiveHandle => "while scanning a tag directive"
  | parsingTagDirectiveHandle => "while parsing a tag directive"
  | parsingTagDirectivePrefix => "while parsing a %TAG directive"
  | scanningTag => "while scanning a tag"
  | parsingTag => "while parsing a tag"
  | scanningAnchor => "while scanning an anchor"
  | scanningAlias => "while scanning an alias"
  | scanningBlockScalar => "while scanning a block scalar"
  | scanningQuotedScalar => "while scanning a quoted scalar"
  | parsingQuotedScalar => "while parsing a quoted scalar"
  | scanningPlainScalar => "while scanning a plain scalar"
  | parsingNode => "while parsing a node"
  | parsingBlockNode => "while parsing a block node"
  | parsingFlowNode => "while parsing a flow node"
  | parsingBlockCollection => "while parsing a block collection"
  | parsingBlockMapping => "while parsing a block mapping"
  | parsingFlowSequence => "while parsing a flow sequence"
  | parsingFlowMapping => "while parsing a flow mapping"

end Activity

/-- Why a text is no document. A control character is reported by the number of
bytes before it, a problem by its place and by what was going on, with the place
where that began. -/
inductive Fault where
  | controlCharacter (offset : Nat)
  | found (problem : Problem) (place : Mark) (during : Option (Activity × Mark))
  deriving DecidableEq, Repr

namespace Fault

/-- A problem met during an activity. -/
def within (activity : Activity) (since : Mark) (problem : Problem) (place : Mark) : Fault :=
  found problem place (some (activity, since))

/-- A fault in words. -/
def message : Fault → String
  | controlCharacter offset =>
    "control characters are not allowed" ++
      if offset = 0 then "" else " at position " ++ toString offset
  | found problem place none => problem.message ++ place.suffix
  | found problem place (some (activity, since)) =>
    problem.message ++ place.suffix ++ ", " ++ activity.message ++
      if since.meets place then "" else since.suffix

end Fault
end Yaml
end ApiStubs
