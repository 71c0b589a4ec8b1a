import CommitStore.Text.Blank
import CommitStore.Text.Search
import CommitStore.Text.SmallLetter
set_option autoImplicit false

/-!
# Style names

A tag names a style by words. Words for attributes have short forms, may come in any order, and may
be taken back by `not`; `normalName` writes such a style in one way, so that a closing tag is found
to name the style of an opening one. Any other name stands for itself, in small letters.
-/

namespace CommitStore
namespace Style

/-- The attributes of text, in the order in which a style names them. -/
inductive Attribute
  | bold
  | dim
  | italic
  | underline
  | blink
  | fastBlink
  | reverse
  | conceal
  | strike
  | doubleUnderline
  | frame
  | encircle
  | overline
  deriving DecidableEq, Repr

/-- All attributes. -/
def Attribute.all : List Attribute :=
  [.bold, .dim, .italic, .underline, .blink, .fastBlink, .reverse, .conceal, .strike,
    .doubleUnderline, .frame, .encircle, .overline]

/-- The word for an attribute. -/
def Attribute.text : Attribute → String
  | .bold => "bold"
  | .dim => "dim"
  | .italic => "italic"
  | .underline => "underline"
  | .blink => "blink"
  | .fastBlink => "blink2"
  | .reverse => "reverse"
  | .conceal => "conceal"
  | .strike => "strike"
  | .doubleUnderline => "underline2"
  | .frame => "frame"
  | .encircle => "encircle"
  | .overline => "overline"

/-- The short form of the word for an attribute. -/
def Attribute.short? : Attribute → Option String
  | .bold => some "b"
  | .dim => some "d"
  | .italic => some "i"
  | .underline => some "u"
  | .reverse => some "r"
  | .conceal => some "c"
  | .strike => some "s"
  | .doubleUnderline => some "uu"
  | .overline => some "o"
  | .blink | .fastBlink | .frame | .encircle => none

/-- The attribute that a word stands for. -/
def attribute? (word : String) : Option Attribute :=
  Attribute.all.find? fun a => a.text == word || a.short? == some word

theorem attribute?_text (a : Attribute) : attribute? a.text = some a := by
  cases a <;> decide

theorem attribute?_short (a : Attribute) : a.short?.all fun word => attribute? word = some a := by
  cases a <;> decide

/-- A style that only sets attributes: whether each is on or off, the last word first. -/
abbrev Settings := List (Attribute × Bool)

/-- What the words of a style name stand for. -/
inductive Reading
  | settings (s : Settings)
  /-- Words that are not all about attributes. -/
  | other
  /-- A colour in parts, one of which is missing. -/
  | partMissing
  deriving DecidableEq, Repr

/-- A word in small letters. -/
def small (word : List Char) : String := String.ofList (Text.small word)

/-- The start of a colour in parts. -/
def colourStart : List Char := "rgb(".toList

/-- Whether a word is a colour in three parts, one of which is missing. -/
def lacksPart (word : String) : Bool :=
  let parts := Text.split ',' (word.toList.drop colourStart.length).dropLast
  colourStart.isPrefixOf word.toList && word.toList.getLast? == some ')' && parts.length == 3 &&
    parts.any List.isEmpty && parts.all fun part => part.all fun c => (Text.digitValue? c).isSome

/-- Reads the words of a style name; `settings` are those before, the last one first. -/
def read : (settings : Settings) → List (List Char) → Reading
  | settings, [] => .settings settings
  | settings, word :: rest =>
    if small word = "not" then
      match rest with
      | [] => .other
      | word :: rest =>
        match attribute? (String.ofList word) with
        | some a => read ((a, false) :: settings) rest
        | none => .other
    else if lacksPart (small word) then .partMissing
    else
      match attribute? (small word) with
      | some a => read ((a, true) :: settings) rest
      | none =>
        -- A background colour has a word of its own in front of it.
        if small word = "on" ∧ rest.head?.any (fun word => lacksPart (small word)) then .partMissing
        else .other

/-- The words for attributes, in their order. -/
def Settings.words (s : Settings) : List String :=
  Attribute.all.filterMap fun a =>
    (s.lookup a).map fun on => if on then a.text else "not " ++ a.text

/-- A style name in the form in which names are compared; `none` if it has a colour with a part
missing. -/
def normalName? (name : List Char) : Option (List Char) :=
  match read [] (Text.words name) with
  | .settings s => some (" ".intercalate s.words).toList
  | .other => some (Text.small (Text.trim Text.isBlank name))
  | .partMissing => none

end Style
end CommitStore
