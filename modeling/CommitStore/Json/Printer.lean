import CommitStore.Json.Value
import CommitStore.Text.Order
import CommitStore.Text.Quoted
import CommitStore.Decimal.Layout
import CommitStore.Numeral
set_option autoImplicit false

/-!
# The text of a JSON value

`render` is one printer with three decisions in a `Style`. `canonical` is the style of hashed
documents: fields in the order of their keys, no blanks, every character as it is. `stored` is the
style of kept payloads and `wire` that of a document that has to pass through ASCII channels.

The keys of an object are compared by code point, so two documents that differ only in the order of
their fields have one canonical text.

A value with a whole number of more than `Numeral.maxDigits` digits has no text: `print?` refuses it.
`print` is for the documents that hold no such number, as those that are kept with objects do not.
-/

namespace CommitStore
namespace Json

/-! ## 1. Strings -/

/-- The escape of a code unit: a backslash, `u` and four hexadecimal digits. -/
def unitEscape (unit : Nat) : List Char := '\\' :: 'u' :: Text.hexDigits 4 unit

/-- A code point above the basic plane as its two surrogates. -/
def surrogates (code : Nat) : Nat × Nat :=
  (0xD800 + (code - 0x10000) / 0x400, 0xDC00 + (code - 0x10000) % 0x400)

/-- How one character of a string is written. -/
def escapeChar (asciiOnly : Bool) (c : Char) : List Char :=
  if c = Text.doubleQuote ∨ c = '\\' then ['\\', c]
  else if c = '\n' then ['\\', 'n']
  else if c = '\r' then ['\\', 'r']
  else if c = '\t' then ['\\', 't']
  else if c.toNat = 0x08 then ['\\', 'b']
  else if c.toNat = 0x0C then ['\\', 'f']
  else if c.toNat < 0x20 then unitEscape c.toNat
  else if asciiOnly ∧ 0x7F ≤ c.toNat then
    if c.toNat < 0x10000 then unitEscape c.toNat
    else
      let (high, low) := surrogates c.toNat
      unitEscape high ++ unitEscape low
  else [c]

/-- A string between double quotes. -/
def renderText (asciiOnly : Bool) (s : String) : List Char :=
  Text.doubleQuote :: s.toList.flatMap (escapeChar asciiOnly) ++ [Text.doubleQuote]

/-! ## 2. Values -/

/-- What a printer of values may decide. -/
structure Style where
  /-- Whether the fields of an object come in the order of their keys. -/
  sortKeys : Bool
  /-- Whether characters beyond ASCII are written by their code. -/
  asciiOnly : Bool
  /-- Whether a blank follows each comma and colon. -/
  spaced : Bool

/-- The style of hashed documents. -/
def canonical : Style := ⟨true, false, false⟩

/-- The style of payloads that are kept with an object. -/
def stored : Style := ⟨false, true, true⟩

/-- The style of documents on an ASCII channel. -/
def wire : Style := ⟨false, true, false⟩

/-- A separator, with a blank after it where the style wants one. -/
def Style.separator (style : Style) (c : Char) : List Char :=
  if style.spaced then [c, ' '] else [c]

/-- Whole numbers in decimal. -/
def renderInt (n : Int) : List Char :=
  if n < 0 then '-' :: Numeral.digits n else Numeral.digits n

/-- One field, its value already rendered. -/
def renderField (style : Style) (field : String × List Char) : List Char :=
  renderText style.asciiOnly field.1 ++ style.separator ':' ++ field.2

/-- Rendered fields in the order of the style. -/
def arrangeFields (style : Style) (fields : List (String × List Char)) :
    List (String × List Char) :=
  if style.sortKeys then fields.mergeSort (fun a b => Text.notAfter a.1 b.1) else fields

mutual

/-- The text of a value. -/
def render (style : Style) : Value → List Char
  | .null => "null".toList
  | .bool true => "true".toList
  | .bool false => "false".toList
  | .integer n => renderInt n
  | .double x => Decimal.plain.text x
  | .text s => renderText style.asciiOnly s
  | .array items =>
    '[' :: (style.separator ',').intercalate (renderItems style items) ++ [']']
  | .object fields =>
    let arranged := arrangeFields style (renderValues style fields)
    '\x7b' :: (style.separator ',').intercalate (arranged.map (renderField style)) ++ ['\x7d']

/-- The texts of the items of an array. -/
def renderItems (style : Style) : List Value → List (List Char)
  | [] => []
  | item :: rest => render style item :: renderItems style rest

/-- The fields of an object with the texts of their values. -/
def renderValues (style : Style) : List (String × Value) → List (String × List Char)
  | [] => []
  | (key, value) :: rest => (key, render style value) :: renderValues style rest

end

/-- The text of a value in a style, whatever numbers it holds. -/
def Value.print (style : Style) (v : Value) : String := String.ofList (render style v)

/-! ## 3. Values that have a text -/

mutual

/-- Whether every whole number in a value can be written. -/
def Value.isWritable : Value → Bool
  | .integer n => Numeral.isWritable n
  | .array items => itemsAreWritable items
  | .object fields => fieldsAreWritable fields
  | .null | .bool _ | .double _ | .text _ => true

/-- Whether every whole number in the items of an array can be written. -/
def itemsAreWritable : List Value → Bool
  | [] => true
  | item :: rest => item.isWritable && itemsAreWritable rest

/-- Whether every whole number in the fields of an object can be written. -/
def fieldsAreWritable : List (String × Value) → Bool
  | [] => true
  | (_, value) :: rest => value.isWritable && fieldsAreWritable rest

end

/-- The text of a value in a style; `none` if it holds a whole number of too many digits. -/
def Value.print? (style : Style) (v : Value) : Option String :=
  if v.isWritable then some (v.print style) else none

end Json
end CommitStore
