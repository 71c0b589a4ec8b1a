import CommitStore.Text.Digits
import CommitStore.Text.Printable
set_option autoImplicit false

/-!
# Quoted text

A message that mentions a text it was given shows it quoted, so that blanks, controls and quotes in
it can be told from the message around it. The quote mark is the single one, unless the text holds
single quotes and no double ones. The mark and the backslash are escaped; newline, carriage return
and tab have letters; any other character that is not printable is written by its code in two, four
or eight hexadecimal digits.
-/

namespace CommitStore
namespace Text

/-- The single and the double quote mark. -/
def singleQuote : Char := Char.ofNat 0x27

@[inherit_doc singleQuote]
def doubleQuote : Char := Char.ofNat 0x22

/-- How one character is written between two `mark`s. -/
def quotedChar (mark c : Char) : List Char :=
  if c = mark ∨ c = '\\' then ['\\', c]
  else if c = '\n' then ['\\', 'n']
  else if c = '\r' then ['\\', 'r']
  else if c = '\t' then ['\\', 't']
  else if isPrintable c then [c]
  else if c.toNat < 0x100 then '\\' :: 'x' :: hexDigits 2 c.toNat
  else if c.toNat < 0x10000 then '\\' :: 'u' :: hexDigits 4 c.toNat
  else '\\' :: 'U' :: hexDigits 8 c.toNat

/-- The mark a text is quoted with: the double one only where that saves escapes. -/
def quoteMark (cs : List Char) : Char :=
  if singleQuote ∈ cs ∧ doubleQuote ∉ cs then doubleQuote else singleQuote

/-- The text between quote marks. -/
def quoted (s : String) : String :=
  let mark := quoteMark s.toList
  String.ofList (mark :: s.toList.flatMap (quotedChar mark) ++ [mark])

end Text
end CommitStore
