import CommitStore.Json.Value
set_option autoImplicit false

/-!
# Reading JSON

`read?` takes a whole text and gives its value, or `none` if the text is no JSON document. A number
without fraction and exponent is exact; any other number is the nearest double. The reader takes
fuel, one unit for each step into a value or to a next item; every step uses up at least one
character, so the length of the text is enough.
-/

namespace CommitStore
namespace Json

/-! ## 1. The leaves -/

/-- Blanks between the tokens of a document. -/
def isGap (c : Char) : Bool := c = ' ' || c = '\t' || c = '\n' || c = '\r'

/-- The text after leading blanks. -/
def skipGaps (cs : List Char) : List Char := cs.dropWhile isGap

/-- What follows a given beginning of a text. -/
def dropLiteral? : (literal text : List Char) → Option (List Char)
  | [], text => some text
  | c :: literal, d :: text => if c = d then dropLiteral? literal text else none
  | _ :: _, [] => none

/-- The value of a hexadecimal digit. -/
def hexValue? (c : Char) : Option Nat :=
  if c.isDigit then some (c.toNat - 48)
  else if 'a' ≤ c ∧ c ≤ 'f' then some (c.toNat - 87)
  else if 'A' ≤ c ∧ c ≤ 'F' then some (c.toNat - 55)
  else none

/-- The code unit written by four hexadecimal digits. -/
def readUnit? : List Char → Option (Nat × List Char)
  | a :: b :: c :: d :: rest => do
    let a ← hexValue? a
    let b ← hexValue? b
    let c ← hexValue? c
    let d ← hexValue? d
    some (((a * 16 + b) * 16 + c) * 16 + d, rest)
  | _ => none

/-- The character of a one-letter escape. -/
def letterEscape? (c : Char) : Option Char :=
  if c = 'n' then some '\n'
  else if c = 't' then some '\t'
  else if c = 'r' then some '\r'
  else if c = 'b' then some (Char.ofNat 0x08)
  else if c = 'f' then some (Char.ofNat 0x0C)
  else if c = Char.ofNat 0x22 ∨ c = '\\' ∨ c = '/' then some c
  else none

/-- The rest of a string after its opening quote: the characters, last one first, and what follows
the closing quote. -/
def readString? : (fuel : Nat) → List Char → List Char → Option (List Char × List Char)
  | 0, _, _ => none
  | _, _, [] => none
  | fuel + 1, acc, '\\' :: 'u' :: rest => do
    let (unit, rest) ← readUnit? rest
    if 0xD800 ≤ unit ∧ unit < 0xDC00 then
      match rest with
      | '\\' :: 'u' :: rest =>
        let (low, rest) ← readUnit? rest
        let code := 0x10000 + (unit - 0xD800) * 0x400 + (low - 0xDC00)
        readString? fuel (Char.ofNat code :: acc) rest
      | _ => none
    else readString? fuel (Char.ofNat unit :: acc) rest
  | fuel + 1, acc, '\\' :: c :: rest => do
    let c ← letterEscape? c
    readString? fuel (c :: acc) rest
  | fuel + 1, acc, c :: rest =>
    if c = Char.ofNat 0x22 then some (acc, rest) else readString? fuel (c :: acc) rest

/-- The number that decimal digits write. -/
def digitsToNat (cs : List Char) : Nat := cs.foldl (fun n c => 10 * n + (c.toNat - 48)) 0

/-- The number at the start of a text. -/
def readNumber? (cs : List Char) : Option (Value × List Char) := do
  let (negative, cs) := match cs with
    | '-' :: rest => (true, rest)
    | _ => (false, cs)
  let (whole, cs) := cs.span Char.isDigit
  if whole.isEmpty then none
  else
    let (fraction, cs) := match cs with
      | '.' :: rest => let (ds, tail) := rest.span Char.isDigit; (some ds, tail)
      | _ => (none, cs)
    let (exponent, cs) := match cs with
      | c :: rest =>
        if c = 'e' ∨ c = 'E' then
          let (minus, rest) := match rest with
            | '-' :: tail => (true, tail)
            | '+' :: tail => (false, tail)
            | _ => (false, rest)
          let (ds, tail) := rest.span Char.isDigit
          (some (minus, ds), tail)
        else (none, cs)
      | [] => (none, cs)
    -- Only digits make a whole number; a fraction or an exponent makes a double.
    if fraction.isNone ∧ exponent.isNone then
      let n : Int := digitsToNat whole
      some (.integer (if negative then -n else n), cs)
    else
      let digits := fraction.getD []
      let (minus, ds) := exponent.getD (false, [])
      let shift : Int := (if minus then -(digitsToNat ds : Int) else digitsToNat ds) - digits.length
      let x := Float.ofScientific (digitsToNat (whole ++ digits)) (decide (shift < 0)) shift.natAbs
      some (.double (if negative then -x else x), cs)

/-! ## 2. Values -/

mutual

/-- The value at the start of a text, and what follows it. -/
def readValue? : (fuel : Nat) → List Char → Option (Value × List Char)
  | 0, _ => none
  | fuel + 1, cs =>
    match skipGaps cs with
    | [] => none
    | c :: rest =>
      if c = Char.ofNat 0x22 then
        (readString? (rest.length + 1) [] rest).map fun (acc, tail) =>
          (.text (String.ofList acc.reverse), tail)
      else if c = '[' then
        match skipGaps rest with
        | ']' :: tail => some (.array [], tail)
        | _ => (readItems? fuel rest).map fun (items, tail) => (.array items, tail)
      else if c = '\x7b' then
        match skipGaps rest with
        | '\x7d' :: tail => some (.object [], tail)
        | _ => (readFields? fuel [] rest).map fun (fields, tail) => (.object fields, tail)
      else if c = 'n' then (dropLiteral? "null".toList (c :: rest)).map ((.null, ·))
      else if c = 't' then (dropLiteral? "true".toList (c :: rest)).map ((.bool true, ·))
      else if c = 'f' then (dropLiteral? "false".toList (c :: rest)).map ((.bool false, ·))
      else readNumber? (c :: rest)

/-- The items of an array, at least one, up to its closing bracket. -/
def readItems? : (fuel : Nat) → List Char → Option (List Value × List Char)
  | 0, _ => none
  | fuel + 1, cs => do
    let (item, cs) ← readValue? fuel cs
    match skipGaps cs with
    | ',' :: rest =>
      let (items, tail) ← readItems? fuel rest
      some (item :: items, tail)
    | ']' :: tail => some ([item], tail)
    | _ => none

/-- The fields of an object, at least one, up to its closing brace; `fields` are those before. -/
def readFields? : (fuel : Nat) → List (String × Value) → List Char →
    Option (List (String × Value) × List Char)
  | 0, _, _ => none
  | fuel + 1, fields, cs => do
    let (key, cs) ← readValue? fuel cs
    match key, skipGaps cs with
    | .text key, ':' :: rest =>
      let (value, cs) ← readValue? fuel rest
      let fields := put key value fields
      match skipGaps cs with
      | ',' :: rest => readFields? fuel fields rest
      | '\x7d' :: tail => some (fields, tail)
      | _ => none
    | _, _ => none

end

/-- The value of a document. -/
def read? (s : String) : Option Value :=
  let cs := s.toList
  match readValue? (cs.length + 2) cs with
  | some (value, tail) => if (skipGaps tail).isEmpty then some value else none
  | none => none

end Json
end CommitStore
