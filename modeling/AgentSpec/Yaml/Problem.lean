import AgentSpec.Yaml.Place

/-!
# What can be wrong with the form of a YAML text

A `Flaw` is a problem at a place, found in the course of some activity that began at another place.
-/

namespace AgentSpec.Yaml

inductive Problem where
  | mappingValue
  | blockEntry
  | mappingKey
  | expectedKey
  | expectedEntry
  | expectedNode
  | expectedSequenceEnd
  | expectedMappingEnd
  | expectedColon
  | noToken
  | endInQuotes
  | documentIndicator
  | unknownEscape
  | expectedHex
  | escapeCode
  | tabIndentation
  | expectedLineEnd
  | zeroIndentation
  | tabInPlain
  | unexpectedColon
  | undefinedHandle
  | expectedUri
  | expectedOctet
  | leadingOctet
  | trailingOctet
  | expectedAngle
  | expectedBang
  | expectedBlank
  | expectedSeparator
  | expectedWord
  | expectedDocument
  | duplicateVersion
  | duplicateHandle
  | incompatible
  | expectedVersion
  | expectedDot
  | longVersion
  | unknownDirective
  | expectedDirective
  | directiveCharacter
  deriving DecidableEq, Repr

def Problem.message : Problem → String
  | .mappingValue => "mapping values are not allowed in this context"
  | .blockEntry => "block sequence entries are not allowed in this context"
  | .mappingKey => "mapping keys are not allowed in this context"
  | .expectedKey => "did not find expected key"
  | .expectedEntry => "did not find expected '-' indicator"
  | .expectedNode => "did not find expected node content"
  | .expectedSequenceEnd => "did not find expected ',' or ']'"
  | .expectedMappingEnd => "did not find expected ',' or '\x7d'"
  | .expectedColon => "could not find expected ':'"
  | .noToken => "found character that cannot start any token"
  | .endInQuotes => "found unexpected end of stream"
  | .documentIndicator => "found unexpected document indicator"
  | .unknownEscape => "found unknown escape character"
  | .expectedHex => "did not find expected hexadecimal number"
  | .escapeCode => "found invalid Unicode character escape code"
  | .tabIndentation => "found a tab character where an indentation space is expected"
  | .expectedLineEnd => "did not find expected comment or line break"
  | .zeroIndentation => "found an indentation indicator equal to 0"
  | .tabInPlain => "found a tab character that violates indentation"
  | .unexpectedColon => "found unexpected ':'"
  | .undefinedHandle => "found undefined tag handle"
  | .expectedUri => "did not find expected tag URI"
  | .expectedOctet => "did not find URI escaped octet"
  | .leadingOctet => "found an incorrect leading UTF-8 octet"
  | .trailingOctet => "found an incorrect trailing UTF-8 octet"
  | .expectedAngle => "did not find the expected '>'"
  | .expectedBang => "did not find expected '!'"
  | .expectedBlank => "did not find expected whitespace"
  | .expectedSeparator => "did not find expected whitespace or line break"
  | .expectedWord => "did not find expected alphabetic or numeric character"
  | .expectedDocument => "did not find expected <document start>"
  | .duplicateVersion => "found duplicate %YAML directive"
  | .duplicateHandle => "found duplicate %TAG directive"
  | .incompatible => "found incompatible YAML document"
  | .expectedVersion => "did not find expected version number"
  | .expectedDot => "did not find expected digit or '.' character"
  | .longVersion => "found extremely long version number"
  | .unknownDirective => "found unknown directive name"
  | .expectedDirective => "could not find expected directive name"
  | .directiveCharacter => "found unexpected non-alphabetical character"

inductive Activity where
  | simpleKey
  | nextToken
  | quotedScalar
  | quotedEscape
  | plainScalar
  | blockScalar
  | anchor
  | aliasName
  | tag
  | tagUri
  | directive
  | versionDirective
  | tagDirective
  | tagDirectiveStart
  | tagDirectiveHandle
  | tagDirectiveUri
  | node
  | blockNode
  | flowNode
  | blockCollection
  | blockMapping
  | flowSequence
  | flowMapping
  deriving DecidableEq, Repr

def Activity.message : Activity → String
  | .simpleKey => "while scanning a simple key"
  | .nextToken => "while scanning for the next token"
  | .quotedScalar => "while scanning a quoted scalar"
  | .quotedEscape => "while parsing a quoted scalar"
  | .plainScalar => "while scanning a plain scalar"
  | .blockScalar => "while scanning a block scalar"
  | .anchor => "while scanning an anchor"
  | .aliasName => "while scanning an alias"
  | .tag => "while scanning a tag"
  | .tagUri => "while parsing a tag"
  | .directive => "while scanning a directive"
  | .versionDirective => "while scanning a %YAML directive"
  | .tagDirective => "while scanning a %TAG directive"
  | .tagDirectiveStart => "while scanning a tag directive"
  | .tagDirectiveHandle => "while parsing a tag directive"
  | .tagDirectiveUri => "while parsing a %TAG directive"
  | .node => "while parsing a node"
  | .blockNode => "while parsing a block node"
  | .flowNode => "while parsing a flow node"
  | .blockCollection => "while parsing a block collection"
  | .blockMapping => "while parsing a block mapping"
  | .flowSequence => "while parsing a flow sequence"
  | .flowMapping => "while parsing a flow mapping"

structure Flaw where
  problem : Problem
  place : Place
  during : Option (Activity × Place)
  deriving DecidableEq, Repr

namespace Flaw

def bare (problem : Problem) (place : Place) : Flaw := ⟨problem, place, none⟩

def within (activity : Activity) (since : Place) (problem : Problem) (place : Place) : Flaw :=
  ⟨problem, place, some (activity, since)⟩

/-- The place of the activity is named where it differs from that of the problem. -/
def message (f : Flaw) (source : String) : String :=
  f.problem.message ++ f.place.text source
    ++ match f.during with
      | none => ""
      | some (activity, since) =>
        ", " ++ activity.message
          ++ if since.position source = f.place.position source then "" else since.text source

end Flaw
end AgentSpec.Yaml
