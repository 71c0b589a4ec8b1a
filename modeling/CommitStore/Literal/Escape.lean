import CommitStore.Literal.Token
set_option autoImplicit false

/-!
# Escapes in quoted texts

The letters in front of a quote mark say how the body of a text is read: as bytes (`b`), without
escapes (`r`), or with expressions in braces (`f`). This module finds the first thing in a body that
cannot be read.
-/

namespace CommitStore
namespace Literal

/-! ## 1. Escapes -/

/-- The places that a character takes while escapes are read; beyond ASCII it is written by its
code. -/
def places (c : Char) : Nat := if c.toNat < 0x80 then 1 else 10

/-- The number of hexadecimal digits at the start of a text, at most `width`. -/
def hexRun (width : Nat) (cs : List Char) : Nat := ((cs.take width).takeWhile isHexDigit).length

/-- The digits that an escape by code wants after its letter. -/
def escapeWidth? : Char → Option Nat
  | 'x' => some 2
  | 'u' => some 4
  | 'U' => some 8
  | _ => none

/-- What is wrong with the escape of a letter at a position of a text. -/
def escapeFault? (position : Nat) (letter : Char) (rest : List Char) : Option Fault :=
  match escapeWidth? letter with
  | some width =>
    let digits := hexRun width rest
    if digits < width then some (.shortEscape letter width position (position + 1 + digits))
    else none
  | none =>
    if letter != 'N' then none
    else
      match rest with
      | '\x7b' :: name =>
        if name.contains '\x7d' then none else some (.namelessEscape position (position + 2))
      | _ => some (.namelessEscape position (position + 1))

/-- The first escape of a text that cannot be read. -/
def textEscapeFault? : (position : Nat) → List Char → Option Fault
  | _, [] => none
  | position, '\\' :: c :: rest =>
    escapeFault? position c rest <|> textEscapeFault? (position + 1 + places c) rest
  | position, c :: rest => textEscapeFault? (position + places c) rest

/-- The first escape of a run of bytes that cannot be read. -/
def byteEscapeFault? : (position : Nat) → List Char → Option Fault
  | _, [] => none
  | position, '\\' :: c :: rest =>
    if c = 'x' ∧ hexRun 2 rest < 2 then some (.shortByte position)
    else byteEscapeFault? (position + 2) rest
  | position, _ :: rest => byteEscapeFault? (position + 1) rest

/-! ## 2. Expressions in braces -/

/-- What is wrong with the expression behind an opening brace. -/
def insideFault? (cs : List Char) : Option TemplateFault :=
  match cs.dropWhile (· == ' ') with
  | [] => some .openBrace
  | '\x7d' :: _ => some .nothingInside
  | c :: rest =>
    if ['!', ':', '='].contains c then some (.nothingBefore c)
    else if rest.contains '\x7d' then none
    else some .openBrace

/-- What is wrong with a text with expressions; two braces stand for one. -/
def templateFault? : List Char → Option TemplateFault
  | [] => none
  | '\x7b' :: '\x7b' :: rest => templateFault? rest
  | '\x7d' :: '\x7d' :: rest => templateFault? rest
  | '\x7b' :: rest => insideFault? rest
  | '\x7d' :: _ => some .loneBrace
  | _ :: rest => templateFault? rest

/-! ## 3. Texts -/

/-- Whether the letters in front of a quote mark make a text bytes. -/
def isBytes (letters : String) : Bool := letters.toList.contains 'b'

/-- What is wrong with one quoted text. -/
def textFault? (letters : String) (body : List Char) : Option Fault :=
  let raw := letters.toList.contains 'r'
  if isBytes letters then
    if body.any fun c => 0x80 ≤ c.toNat then some .wideByte
    else if raw then none
    else byteEscapeFault? 0 body
  else
    let template := if letters.toList.contains 'f' then templateFault? body else none
    template.map Fault.template <|> if raw then none else textEscapeFault? 0 body

/-- What is wrong with quoted texts that follow each other and make one text; `bytes` is what those
before were. -/
def textsFault? : (bytes : Option Bool) → List (String × List Char) → Option Fault
  | _, [] => none
  | bytes, (letters, body) :: rest =>
    textFault? letters body <|>
      if bytes.any (· != isBytes letters) then some .mixedTexts
      else textsFault? (some (isBytes letters)) rest

end Literal
end CommitStore
