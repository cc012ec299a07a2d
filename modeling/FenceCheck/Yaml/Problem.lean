import FenceCheck.Text.Quoted
import FenceCheck.Text.Utf8
import FenceCheck.Yaml.Cursor

/-!
What can be wrong with a YAML stream.
-/
namespace FenceCheck.Yaml
open FenceCheck.Text

inductive TokenKind where
  | streamStart
  | streamEnd
  | directive
  | documentStart
  | documentEnd
  | blockSequenceStart
  | blockMappingStart
  | blockEnd
  | flowSequenceStart
  | flowMappingStart
  | flowSequenceEnd
  | flowMappingEnd
  | key
  | value
  | blockEntry
  | flowEntry
  | «alias»
  | anchor
  | tag
  | scalar
  deriving DecidableEq, Repr

def TokenKind.name : TokenKind → String
  | .streamStart => "<stream start>"
  | .streamEnd => "<stream end>"
  | .directive => "<directive>"
  | .documentStart => "<document start>"
  | .documentEnd => "<document end>"
  | .blockSequenceStart => "<block sequence start>"
  | .blockMappingStart => "<block mapping start>"
  | .blockEnd => "<block end>"
  | .flowSequenceStart => "["
  | .flowMappingStart => "\x7b"
  | .flowSequenceEnd => "]"
  | .flowMappingEnd => "\x7d"
  | .key => "?"
  | .value => ":"
  | .blockEntry => "-"
  | .flowEntry => ","
  | .alias => "<alias>"
  | .anchor => "<anchor>"
  | .tag => "<tag>"
  | .scalar => "<scalar>"

/-- A problem with the form of a stream. -/
inductive Problem where
  | missingColon
  | misplacedEntry
  | misplacedKey
  | misplacedValue
  | cannotStart (c : Char)
  | expectedWord (c : Char)
  | expectedDigit (c : Char)
  | expectedDigitOrDot (c : Char)
  | expectedDigitOrSpace (c : Char)
  | expectedSpace (c : Char)
  | expectedTagEnd (c : Char)
  | expectedMark (c : Char)
  | expectedUri (c : Char)
  | expectedUriEscape (c : Char)
  | badUriBytes (e : Utf8.DecodeError)
  | expectedCommentOrBreak (c : Char)
  | zeroIndent
  | expectedIndicators (c : Char)
  | expectedHex (digits : Nat) (c : Char)
  | unknownEscape (c : Char)
  | endInQuotes
  | separatorInQuotes
  | expectedDocumentStart (found : TokenKind)
  | duplicateVersion
  | incompatibleVersion
  | duplicateHandle (handle : String)
  | undefinedHandle (handle : String)
  | expectedContent (found : TokenKind)
  | expectedBlockEnd (found : TokenKind)
  | expectedSequencePart (found : TokenKind)
  | expectedMappingPart (found : TokenKind)
  | undefinedAlias (name : String)
  | secondAnchor
  deriving DecidableEq

def shown (c : Char) : String :=
  quoted (String.singleton c)

def Problem.message : Problem → String
  | .missingColon => "could not find expected ':'"
  | .misplacedEntry => "sequence entries are not allowed here"
  | .misplacedKey => "mapping keys are not allowed here"
  | .misplacedValue => "mapping values are not allowed here"
  | .cannotStart c => "found character " ++ shown c ++ " that cannot start any token"
  | .expectedWord c => "expected alphabetic or numeric character, but found " ++ shown c
  | .expectedDigit c => "expected a digit, but found " ++ shown c
  | .expectedDigitOrDot c => "expected a digit or '.', but found " ++ shown c
  | .expectedDigitOrSpace c => "expected a digit or ' ', but found " ++ shown c
  | .expectedSpace c => "expected ' ', but found " ++ shown c
  | .expectedTagEnd c => "expected '>', but found " ++ shown c
  | .expectedMark c => "expected '!', but found " ++ shown c
  | .expectedUri c => "expected URI, but found " ++ shown c
  | .expectedUriEscape c =>
    "expected URI escape sequence of 2 hexadecimal numbers, but found " ++ shown c
  | .badUriBytes e => e.message
  | .expectedCommentOrBreak c => "expected a comment or a line break, but found " ++ shown c
  | .zeroIndent => "expected indentation indicator in the range 1-9, but found 0"
  | .expectedIndicators c => "expected chomping or indentation indicators, but found " ++ shown c
  | .expectedHex n c =>
    "expected escape sequence of " ++ toString n ++ " hexadecimal numbers, but found " ++ shown c
  | .unknownEscape c => "found unknown escape character " ++ shown c
  | .endInQuotes => "found unexpected end of stream"
  | .separatorInQuotes => "found unexpected document separator"
  | .expectedDocumentStart k => "expected '<document start>', but found " ++ quoted k.name
  | .duplicateVersion => "found duplicate YAML directive"
  | .incompatibleVersion => "found incompatible YAML document (version 1.* is required)"
  | .duplicateHandle h => "duplicate tag handle " ++ quoted h
  | .undefinedHandle h => "found undefined tag handle " ++ quoted h
  | .expectedContent k => "expected the node content, but found " ++ quoted k.name
  | .expectedBlockEnd k => "expected <block end>, but found " ++ quoted k.name
  | .expectedSequencePart k => "expected ',' or ']', but got " ++ quoted k.name
  | .expectedMappingPart k => "expected ',' or '\x7d', but got " ++ quoted k.name
  | .undefinedAlias n => "found undefined alias " ++ quoted n
  | .secondAnchor => "second occurrence"

/-- Why reading stopped: a problem at a mark, a character that no stream may hold, an escape that names
no code point, or a version number of too many digits. -/
inductive Stop where
  | problem (p : Problem) (mark : Mark)
  | unacceptable (c : Char) (offset : Nat)
  | beyondUnicode
  | beyondWords
  | longNumeral (digits : Nat)
  deriving DecidableEq

end FenceCheck.Yaml
