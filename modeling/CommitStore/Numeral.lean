import CommitStore.Text.Blank
import CommitStore.Text.Search
set_option autoImplicit false

/-!
# Whole numbers written as text

Two readings of a whole number. `read` is the one for numbers that a store keeps as text and for
numbers on the command line: digits of any script, single underscores between digits, a sign, blanks
around. `readLenient` is the one for a field of a record: ASCII digits, and zeros in front, a
fraction of zeros, and single underscores do not matter. Both refuse a text of more than `maxDigits`
digits, because reading one takes time that grows with the square of its length. So does writing one,
and a number of more digits is not written either (`isWritable`).
-/

namespace CommitStore
namespace Numeral

/-- The longest run of digits that is read, or written. -/
def maxDigits : Nat := 4300

/-- Why a text is no whole number. -/
inductive Fault
  | malformed
  | tooLong (digits : Nat)
  deriving DecidableEq, Repr

/-- The number that a list of decimal digits stands for, first digit first. -/
def ofDigits (digits : List Nat) : Nat := digits.foldl (fun n d => 10 * n + d) 0

/-- The sign in front of a number and what follows it. -/
def splitSign : List Char → Bool × List Char
  | '-' :: rest => (true, rest)
  | '+' :: rest => (false, rest)
  | rest => (false, rest)

/-- A number with its sign. -/
def signed (negative : Bool) (n : Nat) : Int := if negative then -(n : Int) else n

/-- The digits at the start of a text and what follows them; `none` if an underscore there has no
digit on one of its sides. -/
def scanDigits (value? : Char → Option Nat) : List Char → Option (List Nat × List Char)
  | [] => some ([], [])
  | ['_'] => none
  | '_' :: c :: rest =>
    if (value? c).isSome then scanDigits value? (c :: rest) else none
  | c :: rest =>
    match value? c with
    | none => some ([], c :: rest)
    | some d => (scanDigits value? rest).map fun (digits, tail) => (d :: digits, tail)

/-! ## 1. The general reading -/

/-- The whole number that a text stands for. -/
def read (s : String) : Except Fault Int :=
  let (negative, body) := splitSign (Text.trim Text.isWhite s.toList)
  if body.head? = some '_' then .error .malformed
  else
    match scanDigits Text.digitValue? body with
    | none => .error .malformed
    | some (digits, tail) =>
      if maxDigits < digits.length then .error (.tooLong digits.length)
      else if digits.isEmpty || !tail.isEmpty then .error .malformed
      else .ok (signed negative (ofDigits digits))

/-! ## 2. The reading for record fields -/

/-- A minus sign in front of a number, and what follows it. -/
def splitMinus : List Char → Bool × List Char
  | '-' :: rest => (true, rest)
  | cs => (false, cs)

/-- The number that a text of ASCII digits stands for. A zero stands alone. Digits that are too many
are found before what follows them is looked at. -/
def readStrict (cs : List Char) : Except Fault Int :=
  let (negative, body) := splitMinus cs
  let digits := body.takeWhile Char.isDigit
  if body = ['0'] then .ok 0
  else if digits.isEmpty || digits.head? = some '0' then .error .malformed
  else if maxDigits < digits.length then .error (.tooLong digits.length)
  else if digits.length < body.length then .error .malformed
  else .ok (signed negative (ofDigits (digits.map fun c => c.toNat - '0'.toNat)))

/-- What follows the zeros at the start of a number, of which `last` is the last one so far.
Underscores among them do not matter; one zero is kept in front of a fraction and at the end. -/
def afterZeros (last : Char) : List Char → Option (List Char)
  | [] => some [last]
  | c :: rest =>
    if c = '0' ∨ c = '_' then afterZeros c rest
    else if c = '.' then some (last :: c :: rest)
    else if c.isDigit ∨ c = '-' then some (c :: rest)
    else none

/-- A number without the zeros at its start; `none` if no digit is at its start. -/
def dropZeros : List Char → Option (List Char)
  | '0' :: rest => afterZeros '0' rest
  | c :: rest => if c.isDigit then some (c :: rest) else none
  | [] => none

/-- The text without a fraction that consists of zeros. -/
def dropZeroFraction (cs : List Char) : List Char :=
  match cs.span (· != '.') with
  | (whole, '.' :: fraction) =>
    if !fraction.isEmpty && fraction.all (· == '0') then whole else cs
  | _ => cs

/-- The text without underscores, if each of them stands alone and inside the number. -/
def dropUnderscores (cs : List Char) : List Char :=
  let alone := !Text.occursIn ['_', '_'] cs
  if alone && cs.head? != some '_' && cs.getLast? != some '_' then cs.filter (· != '_') else cs

/-- The text of a number without what does not matter in it; `none` if it is no number. -/
def cleaned? (cs : List Char) : Option (List Char) :=
  let (negative, body) := match cs with
    | '+' :: rest => (false, rest)
    | _ => splitMinus cs
  (dropZeros body).map fun body =>
    let body := dropUnderscores (dropZeroFraction body)
    if negative then '-' :: body else body

/-- The whole number that the text of a record field stands for. A text that starts with too many
digits is too long; one that has to be cleaned first is then no number. -/
def readLenient (s : String) : Except Fault Int :=
  let cs := Text.trim Text.isWhite s.toList
  match readStrict cs with
  | .error .malformed =>
    match (cleaned? cs).map readStrict with
    | some (.ok n) => .ok n
    | _ => .error .malformed
  | result => result

/-! ## 3. Writing -/

/-- The digits of a number, without its sign. -/
def digits (n : Int) : List Char := Nat.toDigits 10 n.natAbs

/-- Whether a number has few enough digits to be written. -/
def isWritable (n : Int) : Bool := decide ((digits n).length ≤ maxDigits)

end Numeral
end CommitStore
