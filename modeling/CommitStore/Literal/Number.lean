import CommitStore.Literal.Fault
import CommitStore.Text.Letter
set_option autoImplicit false

/-!
# Numbers in a literal

A number is decimal, with a fraction and an exponent if wanted, or has a base mark after a zero. An
underscore may stand between two digits. What follows a number must not look like a part of it,
except for a word that joins expressions; every character beyond ASCII looks like one.
-/

namespace CommitStore
namespace Literal

/-! ## 1. Runs of digits -/

/-- The fault of a number that does not go on with a digit. -/
def wrongDigit (kind : NumberKind) (next : List Char) : Fault :=
  match next with
  | c :: _ => if c.isDigit then .badDigit c kind else .badNumber kind
  | [] => .badNumber kind

/-- What follows the digits at the start of a text, with single underscores before digits. -/
def afterDigits (isDigit : Char → Bool) (kind : NumberKind) : List Char → Except Fault (List Char)
  | [] => .ok []
  | c :: rest =>
    if isDigit c then afterDigits isDigit kind rest
    else if c = '_' then
      match rest with
      | [] => .error (wrongDigit kind [])
      | d :: rest =>
        if isDigit d then afterDigits isDigit kind rest else .error (wrongDigit kind (d :: rest))
    else .ok (c :: rest)

/-- A character that may go on a word. -/
def continuesWord (c : Char) : Bool := c.isAlphanum || c == '_' || 0x80 ≤ c.toNat

/-- The words that may follow a number without a blank. -/
def joiningWords : List String := ["and", "else", "for", "or", "not"]

/-- The letters with which the words `if`, `in` and `is` go on. -/
def afterLetterI : List Char := ['f', 'n', 's']

/-- Whether a number may end in front of a text. -/
def mayEndBefore (next : List Char) : Bool :=
  match next with
  | [] => true
  | 'i' :: c :: _ => afterLetterI.contains c
  | c :: _ =>
    !continuesWord c ||
      joiningWords.contains (String.ofList (next.takeWhile continuesWord))

/-- The end of a number. -/
def endNumber (kind : NumberKind) (next : List Char) : Except Fault (List Char) :=
  if mayEndBefore next then .ok next else .error (.badNumber kind)

/-! ## 2. Numbers -/

/-- A number after its base mark. -/
def afterBase (isDigit : Char → Bool) (kind : NumberKind) (cs : List Char) :
    Except Fault (List Char) := do
  let digits := if cs.head? = some '_' then cs.drop 1 else cs
  if !(digits.head?.any isDigit) then throw (wrongDigit kind digits)
  let next ← afterDigits isDigit kind digits
  -- A digit that is too large for the base.
  if next.head?.any Char.isDigit then throw (wrongDigit kind next)
  endNumber kind next

/-- A hexadecimal digit. -/
def isHexDigit (c : Char) : Bool :=
  c.isDigit || (decide ('a' ≤ c) && decide (c ≤ 'f')) || (decide ('A' ≤ c) && decide (c ≤ 'F'))

/-- A digit below a given one. -/
def isDigitBelow (limit : Char) (c : Char) : Bool := decide ('0' ≤ c) && decide (c < limit)

/-- A decimal number after its digits and its fraction: whether it is imaginary, and what follows
it. -/
def afterFraction (cs : List Char) : Except Fault (Bool × List Char) := do
  let next ← match cs with
    | 'e' :: rest | 'E' :: rest =>
      match rest with
      | '+' :: d :: _ | '-' :: d :: _ =>
        if d.isDigit then afterDigits Char.isDigit .decimal (rest.drop 1)
        else throw (.badNumber .decimal)
      | '+' :: [] | '-' :: [] => throw (.badNumber .decimal)
      | d :: _ => if d.isDigit then afterDigits Char.isDigit .decimal rest else pure cs
      | [] => pure cs
    | _ => pure cs
  match next with
  | 'j' :: rest | 'J' :: rest => return (true, ← endNumber .imaginary rest)
  | _ => return (false, ← endNumber .decimal next)

/-- A decimal number after the digits in front of its point. -/
def afterWhole (cs : List Char) : Except Fault (Bool × List Char) :=
  match cs with
  | '.' :: rest =>
    if rest.head?.any Char.isDigit then do afterFraction (← afterDigits Char.isDigit .decimal rest)
    else afterFraction rest
  | _ => afterFraction cs

/-- Whether a decimal number goes on behind its digits, so that it is no whole number. -/
def goesOn (next : List Char) : Bool := next.head?.any fun c => ['.', 'e', 'E', 'j', 'J'].contains c

/-- The number at the start of a text, which begins with a digit or a point: whether it is
imaginary, and what follows it. -/
def number (cs : List Char) : Except Fault (Bool × List Char) := do
  let based (isDigit : Char → Bool) (kind : NumberKind) (rest : List Char) :
      Except Fault (Bool × List Char) := return (false, ← afterBase isDigit kind rest)
  match cs with
  | '0' :: 'x' :: rest | '0' :: 'X' :: rest => based isHexDigit .hexadecimal rest
  | '0' :: 'o' :: rest | '0' :: 'O' :: rest => based (isDigitBelow '8') .octal rest
  | '0' :: 'b' :: rest | '0' :: 'B' :: rest => based (isDigitBelow '2') .binary rest
  | '.' :: _ => afterWhole cs
  | _ =>
    let next ← afterDigits Char.isDigit .decimal cs
    let digits := cs.take (cs.length - next.length)
    let padded := digits.head? = some '0' && digits.any fun c => c != '0' && c != '_'
    if padded && !goesOn next then throw .leadingZeros
    afterWhole next

end Literal
end CommitStore
