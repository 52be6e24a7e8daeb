namespace WorkerLint.Tool.Perl

inductive Fault
  | endsWithBackslash
  | endsWithControl
  | unknownEscape
  | countOrder
  | countTooLarge
  | openClass
  | classEscape
  | classOrder
  | nothingToRepeat
  | unknownOption
  | bareClass
  | collation
  | openGroup
  | noGroup
  | openComment
  | unmatchedClose
  | openCondition
  | variableBehind
  | relativeZero
  | tooManyBranches
  | assertionExpected
  | digitExpected
  | unknownClass
  | codeTooLarge
  | caseEscape
  | unknownNamed
  | nameSyntax
  | repeatedName
  | nameStart
  | badProperty
  | unknownProperty
  | nameTooLong
  | classRange
  | octalTooLarge
  | octalBrace
  | badGroupEscape
  | badRecursion
  | badVerb
  | groupTooLarge
  | nameExpected
  | octalDigit
  | hexDigit
  | controlChar
  | badNameEscape
  | lineInClass
  | noDigits
  | badHyphen
  | unknownAssertion
  | keepInside
  deriving DecidableEq, Repr

def Fault.message : Fault → String
  | .endsWithBackslash => "\\ at end of pattern"
  | .endsWithControl => "\\c at end of pattern"
  | .unknownEscape => "unrecognized character follows \\"
  | .countOrder => "numbers out of order in \x7b\x7d quantifier"
  | .countTooLarge => "number too big in \x7b\x7d quantifier"
  | .openClass => "missing terminating ] for character class"
  | .classEscape => "escape sequence is invalid in character class"
  | .classOrder => "range out of order in character class"
  | .nothingToRepeat => "quantifier does not follow a repeatable item"
  | .unknownOption => "unrecognized character after (? or (?-"
  | .bareClass => "POSIX named classes are supported only within a class"
  | .collation => "POSIX collating elements are not supported"
  | .openGroup => "missing closing parenthesis"
  | .noGroup => "reference to non-existent subpattern"
  | .openComment => "missing ) after (?# comment"
  | .unmatchedClose => "unmatched closing parenthesis"
  | .openCondition => "missing closing parenthesis for condition"
  | .variableBehind => "lookbehind assertion is not fixed length"
  | .relativeZero => "a relative value of zero is not allowed"
  | .tooManyBranches => "conditional subpattern contains more than two branches"
  | .assertionExpected => "assertion expected after (?( or (?(?C)"
  | .digitExpected => "digit expected after (?+ or (?-"
  | .unknownClass => "unknown POSIX class name"
  | .codeTooLarge => "character code point value in \\x\x7b\x7d or \\o\x7b\x7d is too large"
  | .caseEscape => "PCRE2 does not support \\F, \\L, \\l, \\N\x7bname\x7d, \\U, or \\u"
  | .unknownNamed => "unrecognized character after (?P"
  | .nameSyntax => "syntax error in subpattern name (missing terminator?)"
  | .repeatedName => "two named subpatterns have the same name (PCRE2_DUPNAMES not set)"
  | .nameStart => "subpattern name must start with a non-digit"
  | .badProperty => "malformed \\P or \\p sequence"
  | .unknownProperty => "unknown property after \\P or \\p"
  | .nameTooLong => "subpattern name is too long (maximum 32 code units)"
  | .classRange => "invalid range in character class"
  | .octalTooLarge => "octal value is greater than \\377 in 8-bit non-UTF-8 mode"
  | .octalBrace => "missing opening brace after \\o"
  | .badGroupEscape =>
    "\\g is not followed by a braced, angle-bracketed, or quoted name/number or by a plain number"
  | .badRecursion => "(?R (recursive pattern call) must be followed by a closing parenthesis"
  | .badVerb => "(*VERB) not recognized or malformed"
  | .groupTooLarge => "subpattern number is too big"
  | .nameExpected => "subpattern name expected"
  | .octalDigit => "non-octal character in \\o\x7b\x7d (closing brace missing?)"
  | .hexDigit => "non-hex character in \\x\x7b\x7d (closing brace missing?)"
  | .controlChar => "\\c must be followed by a printable ASCII character"
  | .badNameEscape => "\\k is not followed by a braced, angle-bracketed, or quoted name"
  | .lineInClass => "\\N is not supported in a class"
  | .noDigits => "digits missing in \\x\x7b\x7d or \\o\x7b\x7d or \\N\x7bU+\x7d"
  | .badHyphen => "invalid hyphen in option setting"
  | .unknownAssertion => "(*alpha_assertion) not recognized"
  | .keepInside =>
    "\\K is not allowed in lookarounds (but see PCRE2_EXTRA_ALLOW_LOOKAROUND_BSK)"

end WorkerLint.Tool.Perl
