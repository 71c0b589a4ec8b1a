import CommitStore.Text.Blank
import CommitStore.Text.Pictograph.Names
set_option autoImplicit false

/-!
# Pictographs by name

In report lines a name between two colons stands for a pictograph. The name is the shortest run
without blanks that has a colon behind it; if it ends in `-text` or `-emoji`, the rest is the name
and the ending chooses the presentation. Names count in letters of either case. A name that nothing
is known by is shown as it is, colons included, and its second colon opens no further name.
-/

namespace CommitStore
namespace Text
namespace Pictograph

/-! ## 1. Looking a name up -/

/-- The pictograph that a list of entries gives for a name. -/
def find? (entries : String) (name : List Char) : Option (List Char) :=
  ((words entries.toList).find? fun entry => entry.takeWhile (· != '=') == name).map fun entry =>
    (entry.dropWhile (· != '=')).drop 1

/-- The selectors of the two presentations. -/
def textSelector : Char := Char.ofNat 0xFE0E

@[inherit_doc textSelector]
def pictureSelector : Char := Char.ofNat 0xFE0F

/-- The endings of names that give a skin tone, with the modifier for the tone. -/
def skinTones : List (List Char × Char) :=
  [("_light_skin_tone".toList, Char.ofNat 0x1F3FB),
    ("_medium-light_skin_tone".toList, Char.ofNat 0x1F3FC),
    ("_medium_skin_tone".toList, Char.ofNat 0x1F3FD),
    ("_medium-dark_skin_tone".toList, Char.ofNat 0x1F3FE),
    ("_dark_skin_tone".toList, Char.ofNat 0x1F3FF)]

/-- A pictograph with a modifier behind its first character, where it takes the place of a
selector. -/
def modified (modifier : Char) : List Char → List Char
  | [] => []
  | c :: rest => c :: modifier :: if rest.head? = some pictureSelector then rest.drop 1 else rest

/-- The pictograph of a person with a skin tone. -/
def toned? (name : List Char) : Option (List Char) :=
  skinTones.findSome? fun (ending, modifier) =>
    if ending.isSuffixOf name then
      (find? people (name.take (name.length - ending.length))).map (modified modifier)
    else none

/-- What the name of a country may have in front of it. -/
def flagStart : List Char := "flag_for_".toList

/-- The flag of a country, by either of its names. -/
def flag? (name : List Char) : Option (List Char) :=
  (find? countries name).orElse fun () =>
    if flagStart.isPrefixOf name then find? countries (name.drop flagStart.length) else none

/-- The pictograph of a name in small letters. -/
def ofName? (name : List Char) : Option (List Char) :=
  (find? things name).orElse fun () => (find? people name).orElse fun () =>
    (toned? name).orElse fun () => flag? name

/-! ## 2. Names in a text -/

/-- A capital of ASCII or of the letters with accents that names are written with, as its small
letter. -/
def smallLetter (c : Char) : Char :=
  if decide (0xC0 ≤ c.toNat) && decide (c.toNat ≤ 0xDE) && c.toNat != 0xD7 then
    Char.ofNat (c.toNat + 0x20)
  else c.toLower

/-- A name in a text, with the selector that its ending asks for. -/
structure Code where
  name : List Char
  selector : List Char
  deriving DecidableEq, Repr

/-- How the ending of a name, its second colon included, chooses the presentation. -/
def endings : List (List Char × List Char) :=
  [("-emoji:".toList, [pictureSelector]), ("-text:".toList, [textSelector]), ([':'], [])]

/-- The name at the start of a text that follows a colon, and what follows its second colon. -/
def readCode? : List Char → Option (Code × List Char)
  | [] => none
  | c :: rest =>
    match endings.find? fun ending => ending.1.isPrefixOf (c :: rest) with
    | some (ending, selector) => some (⟨[], selector⟩, (c :: rest).drop ending.length)
    | none =>
      if isBlank c then none
      else (readCode? rest).map fun (code, after) => ({ code with name := c :: code.name }, after)

/-- A code as it is shown; `written` is how it is written. -/
def Code.shown (code : Code) (written : List Char) : List Char :=
  match ofName? (code.name.map smallLetter) with
  | some picture => picture ++ code.selector
  | none => written

/-- The text with each known name replaced. `fuel` bounds the number of steps by the length of the
text. -/
def depictWithin : (fuel : Nat) → List Char → List Char
  | 0, cs => cs
  | _, [] => []
  | fuel + 1, c :: rest =>
    if c = ':' then
      match readCode? rest with
      | some (code, after) =>
        code.shown (c :: rest.take (rest.length - after.length)) ++ depictWithin fuel after
      | none => c :: depictWithin fuel rest
    else c :: depictWithin fuel rest

/-- The text with each known name replaced by its pictograph. -/
def depict (cs : List Char) : List Char := depictWithin cs.length cs

end Pictograph
end Text
end CommitStore
