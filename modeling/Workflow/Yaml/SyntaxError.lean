import Workflow.Yaml.Mark

/-!
# Errors in the form of YAML texts

An error in the form of a text tells a problem and its place and, in most cases, what was being
read when it was found, and where that starts.  The wording is in this module alone.
-/

namespace Workflow.Yaml

/-- What was being read. -/
inductive Activity where
  | nextToken
  | simpleKey
  | plainScalar
  | quotedScalar
  | escape
  | blockScalar
  | anchorName
  | aliasName
  | tag
  | tagText
  | directive
  | versionDirective
  | handleDirective
  | handleName
  | handleEnd
  | handleMeaning
  | node
  | blockNode
  | flowNode
  | blockSequence
  | blockMapping
  | flowSequence
  | flowMapping
  deriving DecidableEq, Repr

def Activity.text : Activity → String
  | .nextToken => "while scanning for the next token"
  | .simpleKey => "while scanning a simple key"
  | .plainScalar => "while scanning a plain scalar"
  | .quotedScalar => "while scanning a quoted scalar"
  | .escape => "while parsing a quoted scalar"
  | .blockScalar => "while scanning a block scalar"
  | .anchorName => "while scanning an anchor"
  | .aliasName => "while scanning an alias"
  | .tag => "while scanning a tag"
  | .tagText => "while parsing a tag"
  | .directive => "while scanning a directive"
  | .versionDirective => "while scanning a %YAML directive"
  | .handleDirective => "while scanning a %TAG directive"
  | .handleName => "while scanning a tag directive"
  | .handleEnd => "while parsing a tag directive"
  | .handleMeaning => "while parsing a %TAG directive"
  | .node => "while parsing a node"
  | .blockNode => "while parsing a block node"
  | .flowNode => "while parsing a flow node"
  | .blockSequence => "while parsing a block collection"
  | .blockMapping => "while parsing a block mapping"
  | .flowSequence => "while parsing a flow sequence"
  | .flowMapping => "while parsing a flow mapping"

/-- What is wrong with the form of a text. -/
inductive Problem where
  | noToken
  | noColon
  | entryNotAllowed
  | keyNotAllowed
  | valueNotAllowed
  | strayColon
  | tabBeforeLine
  | strayDocumentMark
  | endOfText
  | unknownEscape
  | noHexadecimal
  | noSuchCharacter
  | zeroIncrement
  | noLineEnd
  | tabInMargin
  | noName
  | noExclamationMark
  | noClosingBracket
  | noTagText
  | noEscapedByte
  | wrongFirstByte
  | wrongNextByte
  | noWordEnd
  | noBlank
  | noDirectiveName
  | wrongDirectiveName
  | unknownDirective
  | noVersion
  | longVersion
  | noVersionPoint
  | noDocumentStart
  | secondVersion
  | unsupportedVersion
  | secondHandle
  | unknownHandle
  | noContent
  | noHyphen
  | noKey
  | noSequenceSeparator
  | noMappingSeparator
  deriving DecidableEq, Repr

def Problem.text : Problem → String
  | .noToken => "found character that cannot start any token"
  | .noColon => "could not find expected ':'"
  | .entryNotAllowed => "block sequence entries are not allowed in this context"
  | .keyNotAllowed => "mapping keys are not allowed in this context"
  | .valueNotAllowed => "mapping values are not allowed in this context"
  | .strayColon => "found unexpected ':'"
  | .tabBeforeLine => "found a tab character that violates indentation"
  | .strayDocumentMark => "found unexpected document indicator"
  | .endOfText => "found unexpected end of stream"
  | .unknownEscape => "found unknown escape character"
  | .noHexadecimal => "did not find expected hexdecimal number"
  | .noSuchCharacter => "found invalid Unicode character escape code"
  | .zeroIncrement => "found an indentation indicator equal to 0"
  | .noLineEnd => "did not find expected comment or line break"
  | .tabInMargin => "found a tab character where an indentation space is expected"
  | .noName => "did not find expected alphabetic or numeric character"
  | .noExclamationMark => "did not find expected '!'"
  | .noClosingBracket => "did not find the expected '>'"
  | .noTagText => "did not find expected tag URI"
  | .noEscapedByte => "did not find URI escaped octet"
  | .wrongFirstByte => "found an incorrect leading UTF-8 octet"
  | .wrongNextByte => "found an incorrect trailing UTF-8 octet"
  | .noWordEnd => "did not find expected whitespace or line break"
  | .noBlank => "did not find expected whitespace"
  | .noDirectiveName => "could not find expected directive name"
  | .wrongDirectiveName => "found unexpected non-alphabetical character"
  | .unknownDirective => "found unknown directive name"
  | .noVersion => "did not find expected version number"
  | .longVersion => "found extremely long version number"
  | .noVersionPoint => "did not find expected digit or '.' character"
  | .noDocumentStart => "did not find expected <document start>"
  | .secondVersion => "found duplicate %YAML directive"
  | .unsupportedVersion => "found incompatible YAML document"
  | .secondHandle => "found duplicate %TAG directive"
  | .unknownHandle => "found undefined tag handle"
  | .noContent => "did not find expected node content"
  | .noHyphen => "did not find expected '-' indicator"
  | .noKey => "did not find expected key"
  | .noSequenceSeparator => "did not find expected ',' or ']'"
  | .noMappingSeparator => "did not find expected ',' or '\x7d'"

/-- An error in the form of a text. -/
structure SyntaxError where
  problem : Problem
  mark : Mark
  /-- What was being read, and where it starts. -/
  during : Option (Activity × Mark)
  deriving DecidableEq, Repr

/-- The wording of an error.  A start that is the place of the problem is not told again. -/
def SyntaxError.message (error : SyntaxError) : String :=
  let context := match error.during with
    | none => ""
    | some (activity, start) =>
        s!", {activity.text}" ++ (if start.meets error.mark then "" else start.suffix)
  error.problem.text ++ error.mark.suffix ++ context

/-- A part of a text that does not have the form it should have: what was being read, the
problem, and its place. -/
structure Misreading where
  activity : Activity
  problem : Problem
  mark : Mark
  deriving DecidableEq, Repr

end Workflow.Yaml
