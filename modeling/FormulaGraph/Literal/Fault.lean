import FormulaGraph.Number.Reader
import FormulaGraph.Text.Quoted

/-!
# Faults of a literal

Why a text is no literal: it does not split into tokens, its tokens form no expression, or the
expression has no value. Each cause has one wording.
-/

namespace FormulaGraph.Literal

inductive Numeral where
  | decimal
  | hexadecimal
  | octal
  | binary
  | imaginary
deriving DecidableEq

def Numeral.label : Numeral → String
  | .decimal => "decimal"
  | .hexadecimal => "hexadecimal"
  | .octal => "octal"
  | .binary => "binary"
  | .imaginary => "imaginary"

inductive TokenFault where
  | unclosed (opening : Char)
  | unmatched (closing : Char)
  /-- A bracket is closed by one of another kind; the line where it was opened is known if it is
  another one. -/
  | mismatched (closing opening : Char) (line : Option Nat)
  | tooManyBrackets
  /-- A text in quotes does not end up to a line. -/
  | unterminated (tripled : Bool) (line : Nat)
  | number (how : Numeral)
  | digit (digit : Char) (how : Numeral)
  | leadingZeros
  | character (c : Char)
  /-- Something follows the backslash that should end a line. -/
  | continuation
  | endOfText
  | outdent
  | tabs
  | tooManyIndents

/-- A code point in at least four capital hexadecimal digits. -/
def codePoint (c : Char) : String :=
  let digits := (Nat.toDigits 16 c.toNat).map Char.toUpper
  String.ofList (List.replicate (4 - digits.length) '0' ++ digits)

def TokenFault.message : TokenFault → String
  | .unclosed opening => "'" ++ opening.toString ++ "' was never closed"
  | .unmatched closing => "unmatched '" ++ closing.toString ++ "'"
  | .mismatched closing opening line =>
    "closing parenthesis '" ++ closing.toString ++ "' does not match opening parenthesis '" ++
      opening.toString ++ "'" ++
      match line with
      | none => ""
      | some line => " on line " ++ Number.intText line
  | .tooManyBrackets => "too many nested parentheses"
  | .unterminated tripled line =>
    "unterminated " ++ (if tripled then "triple-quoted " else "") ++
      "string literal (detected at line " ++ Number.intText line ++ ")"
  | .number how => "invalid " ++ how.label ++ " literal"
  | .digit c how => "invalid digit '" ++ c.toString ++ "' in " ++ how.label ++ " literal"
  | .leadingZeros =>
    "leading zeros in decimal integer literals are not permitted; " ++
      "use an 0o prefix for octal integers"
  | .character c =>
    if Text.isPrintable c then
      "invalid character '" ++ c.toString ++ "' (U+" ++ codePoint c ++ ")"
    else "invalid non-printable character U+" ++ codePoint c
  | .continuation => "unexpected character after line continuation character"
  | .endOfText => "unexpected EOF while parsing"
  | .outdent => "unindent does not match any outer indentation level"
  | .tabs => "inconsistent use of tabs and spaces in indentation"
  | .tooManyIndents => "too many levels of indentation"

inductive QuoteFault where
  /-- Bytes are written with a character beyond ASCII. -/
  | nonAscii
  | mixedBytes
  /-- An escape in bytes lacks digits. -/
  | byteEscape (offset : Nat)
  /-- An escape in a text, from one offset to another, is wrong. -/
  | escape (first last : Nat) (reason : String)

def QuoteFault.message : QuoteFault → String
  | .nonAscii => "bytes can only contain ASCII literal characters"
  | .mixedBytes => "cannot mix bytes and nonbytes literals"
  | .byteEscape offset =>
    "(value error) invalid \\x escape at position " ++ Number.intText offset
  | .escape first last reason =>
    "(unicode error) 'unicodeescape' codec can't decode bytes in position " ++
      Number.intText first ++ "-" ++ Number.intText last ++ ": " ++ reason

inductive FormatFault where
  | singleBrace
  | braceMissing
  | emptyExpression
  /-- The expression is empty before a character that ends it. -/
  | expressionMissing (ending : Char)
  | backslash
  | comment
  | unterminated
  | unmatched (bracket : Char)
  | mismatched (closing opening : Char)
  | tooManyBrackets
  | tooDeep
  | conversion

def FormatFault.message : FormatFault → String
  | .singleBrace => "f-string: single '\x7d' is not allowed"
  | .braceMissing => "f-string: expecting '\x7d'"
  | .emptyExpression => "f-string: empty expression not allowed"
  | .expressionMissing ending =>
    "f-string: expression required before '" ++ ending.toString ++ "'"
  | .backslash => "f-string expression part cannot include a backslash"
  | .comment => "f-string expression part cannot include '#'"
  | .unterminated => "f-string: unterminated string"
  | .unmatched bracket => "f-string: unmatched '" ++ bracket.toString ++ "'"
  | .mismatched closing opening =>
    "f-string: closing parenthesis '" ++ closing.toString ++
      "' does not match opening parenthesis '" ++ opening.toString ++ "'"
  | .tooManyBrackets => "f-string: too many nested parenthesis"
  | .tooDeep => "f-string: expressions nested too deeply"
  | .conversion => "f-string: invalid conversion character: expected 's', 'r', or 'a'"

inductive GrammarFault where
  | malformed
  | unexpectedIndent
  | unexpectedOutdent
  /-- Two expressions follow each other. -/
  | commaMissing
  | elseMissing
  /-- A command is followed by what should be its arguments in parentheses. -/
  | parenthesesMissing (command : String)
  | namedTarget (what : String)
  | equalsForName
  | equalsForOther (what : String)
  | assignment (what : String)
  | keywordExpression
  | unpackingAfterKeywords
  | generatorArgument
  | positionalAfterKeyword
  | positionalAfterUnpacking
  | comprehensionUnpacking
  | comprehensionTarget
  | dictionaryUnpacking
  | starred
  | doubleStarred
  | bareUnpacking
  | starredEntry
  | entryMissing
  | colonMissing
  | defaultMissing
  | defaultOrder
  | parenthesizedParameters
  | slashFirst
  | slashTwice
  | slashAfterStar
  | commaAfterSlash
  | bareStar
  | starDefault
  | starTwice
  | doubleStarDefault
  | afterDoubleStar
  /-- An integer has more digits than are read. -/
  | longInteger (digits : Nat)
  | quote (cause : QuoteFault)
  | format (cause : FormatFault)

def GrammarFault.message : GrammarFault → String
  | .malformed => "invalid syntax"
  | .unexpectedIndent => "unexpected indent"
  | .unexpectedOutdent => "unexpected unindent"
  | .commaMissing => "invalid syntax. Perhaps you forgot a comma?"
  | .elseMissing => "expected 'else' after 'if' expression"
  | .parenthesesMissing command =>
    "Missing parentheses in call to '" ++ command ++ "'. Did you mean " ++ command ++ "(...)?"
  | .namedTarget what => "cannot use assignment expressions with " ++ what
  | .equalsForName => "invalid syntax. Maybe you meant '==' or ':=' instead of '='?"
  | .equalsForOther what =>
    "cannot assign to " ++ what ++ " here. Maybe you meant '==' instead of '='?"
  | .assignment what => "cannot assign to " ++ what
  | .keywordExpression =>
    "expression cannot contain assignment, perhaps you meant \"==\"?"
  | .unpackingAfterKeywords => "iterable argument unpacking follows keyword argument unpacking"
  | .generatorArgument => "Generator expression must be parenthesized"
  | .positionalAfterKeyword => "positional argument follows keyword argument"
  | .positionalAfterUnpacking => "positional argument follows keyword argument unpacking"
  | .comprehensionUnpacking => "iterable unpacking cannot be used in comprehension"
  | .comprehensionTarget => "did you forget parentheses around the comprehension target?"
  | .dictionaryUnpacking => "dict unpacking cannot be used in dict comprehension"
  | .starred => "cannot use starred expression here"
  | .doubleStarred => "cannot use double starred expression here"
  | .bareUnpacking => "Invalid star expression"
  | .starredEntry => "cannot use a starred expression in a dictionary value"
  | .entryMissing => "expression expected after dictionary key and ':'"
  | .colonMissing => "':' expected after dictionary key"
  | .defaultMissing => "expected default value expression"
  | .defaultOrder => "non-default argument follows default argument"
  | .parenthesizedParameters => "Lambda expression parameters cannot be parenthesized"
  | .slashFirst => "at least one argument must precede /"
  | .slashTwice => "/ may appear only once"
  | .slashAfterStar => "/ must be ahead of *"
  | .commaAfterSlash => "expected comma between / and *"
  | .bareStar => "named arguments must follow bare *"
  | .starDefault => "var-positional argument cannot have default value"
  | .starTwice => "* argument may appear only once"
  | .doubleStarDefault => "var-keyword argument cannot have default value"
  | .afterDoubleStar => "arguments cannot follow var-keyword argument"
  | .longInteger digits =>
    Number.tooLongMessage digits ++
      " - Consider hexadecimal for huge integer literals to avoid decimal conversion limits."
  | .quote cause => cause.message
  | .format cause => cause.message

inductive ParseFault where
  | nullByte
  /-- The text cannot be split into tokens, and this is wrong in every text around as well. -/
  | token (cause : TokenFault)
  /-- A token is missing. -/
  | missing (cause : TokenFault)
  | grammar (cause : GrammarFault)
  /-- An expression in the braces of a text is at fault. -/
  | embedded (cause : ParseFault)

namespace ParseFault

def message : ParseFault → String
  | .nullByte => "source code string cannot contain null bytes"
  | .token cause | .missing cause => cause.message
  | .grammar cause => cause.message
  | .embedded cause => "f-string: " ++ cause.message

/-- The fault of a text that has an expression in its braces with a fault. How deeply the expression
lies is not told. -/
def embed : ParseFault → ParseFault
  | .token cause => .token cause
  | .embedded cause => .embedded cause
  | cause => .embedded cause

end ParseFault

inductive ValueFault where
  /-- The expression is nested more deeply than can be read. -/
  | memory
  /-- Halves of code pairs are in the text, by their codes, from an offset on. -/
  | halves (offset : Nat) (codes : List Nat)
  /-- The value cannot be a member or a key. -/
  | unhashable (kind : String)
  /-- The sum of an integer and an imaginary number is out of range. -/
  | overflow
  /-- An entry unpacks another value. -/
  | unpacking
  /-- The expression would have to be computed. -/
  | computed

def ValueFault.message : ValueFault → String
  | .memory => ""
  | .halves offset codes => Text.halvesMessage offset codes
  | .unhashable kind => "unhashable type: '" ++ kind ++ "'"
  | .overflow => "int too large to convert to float"
  | .unpacking => "malformed node or string: None"
  | .computed => "malformed node or string"

inductive Fault where
  | parse (cause : ParseFault)
  | value (cause : ValueFault)

end FormulaGraph.Literal
