/-!
# Faults of patterns

Each fault of a pattern's text is a cause of its own.
-/

namespace Switchboard.Pattern

/-- What is wrong with the text of a pattern. -/
inductive Fault where
  | tooDeep
  | tooLarge
  | openGroup
  | openGroupQuestion
  | unopenedGroup
  | lookAround
  | emptyFlags
  | missingName
  | invalidName
  | openName
  | emptyName
  | duplicateName
  | unknownFlag
  | repeatedNegation
  | duplicateFlag
  | openFlags
  | danglingNegation
  | noDigits
  | invalidDecimal
  | bracedNonHex
  | bracedOpen
  | bracedEmpty
  | bracedInvalid
  | fixedOpen
  | fixedNonHex
  | fixedInvalid
  | hexOpen
  | escapeOpen
  | backreference
  | unicodeClass
  | unknownEscape
  | nothingToRepeat
  | nothingToCount
  | countOpen
  | countOpenAfterMin
  | countOpenAfterComma
  | countOpenAfterMax
  | countInvalid
  | countReversed
  | classOpenAfterItem
  | rangeOfClass
  | classInvalidItem
  | classOpenAfterDash
  | classOpenAfterNegation
  | classOpenAfterBracket
  | rangeReversed
  | classOpen
  | classNested
  | classIntersection
  | classDifference
  | classSymmetricDifference
  | boundaryOpen
  | boundaryUnknown
  | boundaryEmpty
  deriving DecidableEq, Repr

/-- How the fault reads. -/
def Fault.message : Fault → String
  | .tooDeep => "pattern has too much nesting"
  | .tooLarge => "compiled regex exceeded size limit"
  | .openGroup => "found open group without closing ')'"
  | .openGroupQuestion => "expected closing ')', but got end of pattern"
  | .unopenedGroup => "found closing ')' without matching '('"
  | .lookAround => "look-around is not supported"
  | .emptyFlags => "empty flag directive '(?)' is not allowed"
  | .missingName => "expected capture group name, but got end of pattern"
  | .invalidName => "invalid group name"
  | .openName => "expected end of capture group name, but got end of pattern"
  | .emptyName => "empty capture group names are not allowed"
  | .duplicateName => "duplicate capture group name"
  | .unknownFlag => "unrecognized inline flag"
  | .repeatedNegation => "inline flag negation cannot be repeated"
  | .duplicateFlag => "duplicate inline flag is not allowed"
  | .openFlags => "expected ':' or ')' to end inline flags, but got end of pattern"
  | .danglingNegation => "inline flags cannot end with negation directive"
  | .noDigits => "expected decimal number, but found no digits"
  | .invalidDecimal => "got invalid decimal number"
  | .bracedNonHex => "expected hexadecimal number in braces, but got non-hex digit"
  | .bracedOpen => "expected hexadecimal number, but saw end of pattern before closing brace"
  | .bracedEmpty => "expected hexadecimal number in braces, but got no digits"
  | .bracedInvalid => "got invalid hexadecimal number in braces"
  | .fixedOpen => "expected fixed length hexadecimal number, but saw end of pattern first"
  | .fixedNonHex => "expected fixed length hexadecimal number, but got non-hex digit"
  | .fixedInvalid => "got invalid fixed length hexadecimal number"
  | .hexOpen => "expected hexadecimal number, but saw end of pattern first"
  | .escapeOpen => "saw start of escape sequence, but saw end of pattern before it finished"
  | .backreference => "backreferences are not supported"
  | .unicodeClass => "Unicode character classes are not supported"
  | .unknownEscape => "unrecognized escape sequence"
  | .nothingToRepeat => "uncounted repetition operator must be applied to a sub-expression"
  | .nothingToCount => "counted repetition operator must be applied to a sub-expression"
  | .countOpen => "found unclosed counted repetition operator"
  | .countOpenAfterMin => "found incomplete and unclosed counted repetition operator"
  | .countOpenAfterComma => "found counted repetition operator with a comma that is unclosed"
  | .countOpenAfterMax => "found counted repetition with min and max that is unclosed"
  | .countInvalid => "expected closing brace for counted repetition, but got something else"
  | .countReversed => "found counted repetition with a min bigger than its max"
  | .classOpenAfterItem => "non-empty character class has no closing bracket"
  | .rangeOfClass => "character class ranges must start and end with a single character"
  | .classInvalidItem => "invalid escape sequence in character class"
  | .classOpenAfterDash => "non-empty character class has no closing bracket after dash"
  | .classOpenAfterNegation => "negated character class has no closing bracket"
  | .classOpenAfterBracket => "character class begins with literal ']' but has no closing bracket"
  | .rangeReversed => "invalid range in character class"
  | .classOpen => "found unclosed character class"
  | .classNested => "nested character classes are not supported"
  | .classIntersection => "character class intersection is not supported"
  | .classDifference => "character class difference is not supported"
  | .classSymmetricDifference => "character class symmetric difference is not supported"
  | .boundaryOpen => "special word boundary assertion is unclosed or has an invalid character"
  | .boundaryUnknown => "special word boundary assertion is unrecognized"
  | .boundaryEmpty =>
    "found start of special word boundary or repetition without an end"

end Switchboard.Pattern
