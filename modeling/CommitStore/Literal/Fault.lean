import CommitStore.Text.Digits
import CommitStore.Text.Printable
set_option autoImplicit false

/-!
# What can be wrong with a literal

The faults that reading a literal meets: characters that make no token, tokens that make no
expression, texts whose escapes cannot be read, and expressions that are no literal.
-/

namespace CommitStore
namespace Literal

/-- The kinds of written numbers. -/
inductive NumberKind
  | decimal
  | hexadecimal
  | octal
  | binary
  | imaginary
  deriving DecidableEq, Repr

/-- The word for a kind of number. -/
def NumberKind.text : NumberKind → String
  | .decimal => "decimal"
  | .hexadecimal => "hexadecimal"
  | .octal => "octal"
  | .binary => "binary"
  | .imaginary => "imaginary"

/-- What can be wrong with a text that has expressions in braces. -/
inductive TemplateFault
  | loneBrace
  | openBrace
  | nothingInside
  | nothingBefore (c : Char)
  deriving DecidableEq, Repr

/-- What can be wrong with a literal. -/
inductive Fault
  -- Characters.
  | nullCharacter
  | badCharacter (c : Char)
  | strayBackslash
  | badNumber (kind : NumberKind)
  | badDigit (digit : Char) (kind : NumberKind)
  | leadingZeros
  /-- A text that is not closed, and the line where that is found out. -/
  | unterminatedText (line : Nat)
  | unterminatedBlock (line : Nat)
  -- Brackets and lines.
  | unmatched (closing : Char)
  /-- A bracket that closes one of another shape, and the line of that one if it is another line. -/
  | mismatched (closing opening : Char) (line : Option Nat)
  | neverClosed (opening : Char)
  | unexpectedEnd
  | unexpectedIndent
  | unexpectedUnindent
  | unevenUnindent
  | mixedIndentation
  -- Quoted texts.
  /-- An escape by code with too few digits, and where in the text it is. -/
  | shortEscape (letter : Char) (width first last : Nat)
  /-- An escape by name without a name, and where in the text it is. -/
  | namelessEscape (first last : Nat)
  | shortByte (position : Nat)
  | wideByte
  | mixedTexts
  | template (fault : TemplateFault)
  -- Expressions.
  | malformed
  | missingComma
  | missingElse
  | missingColon
  | missingValue
  | starredValue
  | starredGroup
  | doublyStarredGroup
  | starredComprehension
  | spreadComprehension
  | bareTarget
  | bareGenerator
  | argumentAfterKeyword
  | argumentAfterUnpacking
  | unpackingAfterUnpacking
  | assignedArgument
  | assignedConstant (word : String)
  | assignedName
  /-- Something other than a name that is assigned to. -/
  | assigned (what : String)
  /-- Something other than a name that is given a value in passing. -/
  | named (what : String)
  -- Values.
  /-- An expression that is no literal. -/
  | computed
  /-- A record with another one spread into it. -/
  | spread
  /-- A set or a record that would have to be found by its value. -/
  | unhashable (kind : String)
  deriving DecidableEq, Repr

/-- A code point in at least four hexadecimal digits. -/
def codeText (c : Char) : String :=
  let width := if c.toNat < 0x10000 then 4 else if c.toNat < 0x100000 then 5 else 6
  String.ofList ((Text.hexDigits width c.toNat).map Char.toUpper)

/-- A failed escape, from one position to another, in words. -/
def escapeText (first last : Nat) (reason : String) : String :=
  "(unicode error) 'unicodeescape' codec can't decode bytes in position " ++ toString first ++
    "-" ++ toString last ++ ": " ++ reason

/-- The fault of a text with expressions in words. -/
def TemplateFault.describe : TemplateFault → String
  | .loneBrace => "f-string: single '\x7d' is not allowed"
  | .openBrace => "f-string: expecting '\x7d'"
  | .nothingInside => "f-string: empty expression not allowed"
  | .nothingBefore c => "f-string: expression required before '" ++ String.singleton c ++ "'"

/-- The fault in words. -/
def Fault.describe : Fault → String
  | .nullCharacter => "source code string cannot contain null bytes"
  | .badCharacter c =>
    if Text.isPrintable c then
      "invalid character '" ++ String.singleton c ++ "' (U+" ++ codeText c ++ ")"
    else "invalid non-printable character U+" ++ codeText c
  | .strayBackslash => "unexpected character after line continuation character"
  | .badNumber kind => "invalid " ++ kind.text ++ " literal"
  | .badDigit digit kind =>
    "invalid digit '" ++ String.singleton digit ++ "' in " ++ kind.text ++ " literal"
  | .leadingZeros =>
    "leading zeros in decimal integer literals are not permitted; " ++
      "use an 0o prefix for octal integers"
  | .unterminatedText line =>
    "unterminated string literal (detected at line " ++ toString line ++ ")"
  | .unterminatedBlock line =>
    "unterminated triple-quoted string literal (detected at line " ++ toString line ++ ")"
  | .unmatched closing => "unmatched '" ++ String.singleton closing ++ "'"
  | .mismatched closing opening line =>
    "closing parenthesis '" ++ String.singleton closing ++
      "' does not match opening parenthesis '" ++ String.singleton opening ++ "'" ++
      (line.map fun line => " on line " ++ toString line).getD ""
  | .neverClosed opening => "'" ++ String.singleton opening ++ "' was never closed"
  | .unexpectedEnd => "unexpected EOF while parsing"
  | .unexpectedIndent => "unexpected indent"
  | .unexpectedUnindent => "unexpected unindent"
  | .unevenUnindent => "unindent does not match any outer indentation level"
  | .mixedIndentation => "inconsistent use of tabs and spaces in indentation"
  | .shortEscape letter width first last =>
    escapeText first last
      ("truncated \\" ++ String.ofList (letter :: List.replicate width 'X') ++ " escape")
  | .namelessEscape first last => escapeText first last "malformed \\N character escape"
  | .shortByte position => "(value error) invalid \\x escape at position " ++ toString position
  | .wideByte => "bytes can only contain ASCII literal characters"
  | .mixedTexts => "cannot mix bytes and nonbytes literals"
  | .template fault => fault.describe
  | .malformed => "invalid syntax"
  | .missingComma => "invalid syntax. Perhaps you forgot a comma?"
  | .missingElse => "expected 'else' after 'if' expression"
  | .missingColon => "':' expected after dictionary key"
  | .missingValue => "expression expected after dictionary key and ':'"
  | .starredValue => "cannot use a starred expression in a dictionary value"
  | .starredGroup => "cannot use starred expression here"
  | .doublyStarredGroup => "cannot use double starred expression here"
  | .starredComprehension => "iterable unpacking cannot be used in comprehension"
  | .spreadComprehension => "dict unpacking cannot be used in dict comprehension"
  | .bareTarget => "did you forget parentheses around the comprehension target?"
  | .bareGenerator => "Generator expression must be parenthesized"
  | .argumentAfterKeyword => "positional argument follows keyword argument"
  | .argumentAfterUnpacking => "positional argument follows keyword argument unpacking"
  | .unpackingAfterUnpacking => "iterable argument unpacking follows keyword argument unpacking"
  | .assignedArgument => "expression cannot contain assignment, perhaps you meant \"==\"?"
  | .assignedConstant word => "cannot assign to " ++ word
  | .assignedName => "invalid syntax. Maybe you meant '==' or ':=' instead of '='?"
  | .assigned what =>
    "cannot assign to " ++ what ++ " here. Maybe you meant '==' instead of '='?"
  | .named what => "cannot use assignment expressions with " ++ what
  | .computed => "malformed node or string"
  | .spread => "malformed node or string: None"
  | .unhashable kind => "unhashable type: '" ++ kind ++ "'"

/-- Whether the fault is one of syntax, and not of what the syntax stands for. -/
def Fault.isSyntactic : Fault → Bool
  | .nullCharacter | .computed | .spread | .unhashable _ => false
  | _ => true

end Literal
end CommitStore
