import CommitStore.Text.Ranges
set_option autoImplicit false

/-!
# Blanks, line ends and decimal digits

The classes of characters that reading a whole number and laying out a line ask about. All of them
are wider than ASCII: a no-break space is a blank, U+2028 ends a line, and an Arabic-Indic digit
counts as a digit with its value, while a superscript only looks like one. The information
separators are blanks between words, but not around numbers.
-/

namespace CommitStore
namespace Text

/-! ## 1. Blanks -/

/-- The property White_Space. -/
def whiteRanges : List (Nat × Nat) :=
  [(0x09, 0x0D), (0x20, 0x20), (0x85, 0x85), (0xA0, 0xA0), (0x1680, 0x1680), (0x2000, 0x200A),
   (0x2028, 0x2029), (0x202F, 0x202F), (0x205F, 0x205F), (0x3000, 0x3000)]

/-- A character that may stand around a number. -/
def isWhite (c : Char) : Bool := covers whiteRanges c.toNat

/-- A character that separates words: white space, or one of the four information separators. -/
def isBlank (c : Char) : Bool := isWhite c || covers [(0x1C, 0x1F)] c.toNat

/-- The text without the characters of a class at its end. -/
def trimEnd (drops : Char → Bool) (cs : List Char) : List Char :=
  (cs.reverse.dropWhile drops).reverse

/-- The text without the characters of a class at its two ends. -/
def trim (drops : Char → Bool) (cs : List Char) : List Char := trimEnd drops (cs.dropWhile drops)

/-- The words of a text: its longest runs without a blank. -/
def words (cs : List Char) : List (List Char) :=
  go cs []
where
  /-- `word` holds the letters of the word that is being read, last letter first. -/
  go : List Char → List Char → List (List Char)
    | [], word => if word.isEmpty then [] else [word.reverse]
    | c :: rest, word =>
      if isBlank c then
        if word.isEmpty then go rest [] else word.reverse :: go rest []
      else go rest (c :: word)

/-! ## 2. Line ends -/

/-- The characters that end a line in any of the usual conventions. -/
def lineEndRanges : List (Nat × Nat) :=
  [(0x0A, 0x0D), (0x1C, 0x1E), (0x85, 0x85), (0x2028, 0x2029)]

/-- A character after which a new line starts. -/
def endsLine (c : Char) : Bool := covers lineEndRanges c.toNat

/-- The lines of a text. A final line end opens no further line, and a carriage return with the
newline after it is one line end. -/
def lines (cs : List Char) : List (List Char) :=
  go cs []
where
  /-- `line` holds the characters of the line that is being read, last one first. -/
  go : List Char → List Char → List (List Char)
    | [], line => if line.isEmpty then [] else [line.reverse]
    | '\r' :: '\n' :: rest, line => line.reverse :: go rest []
    | c :: rest, line =>
      if endsLine c then line.reverse :: go rest [] else go rest (c :: line)

/-- The text with a newline for each carriage return that has one behind it. -/
def joinLineEnds : List Char → List Char
  | [] => []
  | '\r' :: '\n' :: rest => '\n' :: joinLineEnds rest
  | c :: rest => c :: joinLineEnds rest

/-! ## 3. Decimal digits -/

/-- The code points of the digits zero; the nine code points after each are the digits one to
nine of the same script. -/
def digitZeros : List Nat :=
  [0x30, 0x660, 0x6F0, 0x7C0, 0x966, 0x9E6, 0xA66, 0xAE6, 0xB66, 0xBE6, 0xC66, 0xCE6, 0xD66, 0xDE6,
   0xE50, 0xED0, 0xF20, 0x1040, 0x1090, 0x17E0, 0x1810, 0x1946, 0x19D0, 0x1A80, 0x1A90, 0x1B50,
   0x1BB0, 0x1C40, 0x1C50, 0xA620, 0xA8D0, 0xA900, 0xA9D0, 0xA9F0, 0xAA50, 0xABF0, 0xFF10, 0x104A0,
   0x10D30, 0x11066, 0x110F0, 0x11136, 0x111D0, 0x112F0, 0x11450, 0x114D0, 0x11650, 0x116C0,
   0x11730, 0x118E0, 0x11950, 0x11C50, 0x11D50, 0x11DA0, 0x16A60, 0x16AC0, 0x16B50, 0x1D7CE,
   0x1D7D8, 0x1D7E2, 0x1D7EC, 0x1D7F6, 0x1E140, 0x1E2F0, 0x1E950, 0x1FBF0]

/-- The value of a decimal digit of any script. -/
def digitValue? (c : Char) : Option Nat :=
  (digitZeros.find? fun start => decide (start ≤ c.toNat) && decide (c.toNat < start + 10)).map
    fun start => c.toNat - start

/-- Signs for digits that have no place in a number: superscripts, subscripts, circled digits and
the like. -/
def digitSignRanges : List (Nat × Nat) :=
  [(0xB2, 0xB3), (0xB9, 0xB9), (0x1369, 0x1371), (0x19DA, 0x19DA), (0x2070, 0x2070),
   (0x2074, 0x2079), (0x2080, 0x2089), (0x2460, 0x2468), (0x2474, 0x247C), (0x2488, 0x2490),
   (0x24EA, 0x24EA), (0x24F5, 0x24FD), (0x24FF, 0x24FF), (0x2776, 0x277E), (0x2780, 0x2788),
   (0x278A, 0x2792), (0x10A40, 0x10A43), (0x10E60, 0x10E68), (0x11052, 0x1105A),
   (0x1F100, 0x1F10A)]

/-- A character that looks like a digit, whether or not it is one. -/
def looksLikeDigit (c : Char) : Bool := (digitValue? c).isSome || covers digitSignRanges c.toNat

end Text
end CommitStore
