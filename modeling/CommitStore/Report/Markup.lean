import CommitStore.Literal.Basic
import CommitStore.Report.Style
import CommitStore.Report.Styled
import CommitStore.Text.Pictograph
import CommitStore.Text.Quoted
set_option autoImplicit false

/-!
# Markup

Report lines are written with tags in square brackets that name a style. `render` gives the text
between the tags and the styles on it; it decides which brackets are tags, and whether each closing
tag closes something. A tag that is not closed goes up to the end of the text. Names between colons
are shown as pictographs (`Text/Pictograph`).

A tag may have parameters behind an equals sign, which are a part of its style. Those of an action,
a tag whose name begins with `@`, have to be a literal by the time the tag is closed.

A tag is a `[`, a small letter or one of `#`, `/` and `@`, and the shortest run of characters other
than `[` up to a `]`. Backslashes in front of it escape: each pair stands for one backslash, and an
odd one makes the tag plain text. `escape` writes a text so that no tag in it counts.
-/

namespace CommitStore
namespace Markup

/-! ## 1. Tags -/

/-- A character that a tag may begin with. -/
def beginsTag (c : Char) : Bool :=
  (decide ('a' ≤ c) && decide (c ≤ 'z')) || c == '#' || c == '/' || c == '@'

/-- The inside of a tag up to its `]`, and what follows it; `none` if a `[` or the end of the text
comes first. -/
def closeTag? : List Char → Option (List Char × List Char)
  | [] => none
  | ']' :: rest => some ([], rest)
  | '[' :: _ => none
  | c :: rest => (closeTag? rest).map fun (inside, after) => (c :: inside, after)

/-- The tag at the start of a text, without its brackets, and what follows it. -/
def tagAt? : List Char → Option (List Char × List Char)
  | '[' :: c :: rest =>
    if beginsTag c then (closeTag? rest).map fun (inside, after) => (c :: inside, after) else none
  | _ => none

/-- A text with its brackets, as a tag is written. -/
def bracketed (inside : List Char) : List Char := '[' :: inside ++ [']']

/-- A piece of a text with markup. -/
inductive Piece
  | plain (c : Char)
  /-- A tag with the number of backslashes in front of it. -/
  | tag (backslashes : Nat) (inside : List Char)
  deriving DecidableEq, Repr

/-- Splits a text into pieces. `fuel` bounds the number of pieces by the length of the text;
`backslashes` counts those that were passed directly before. -/
def pieces : (fuel : Nat) → (backslashes : Nat) → List Char → List Piece
  | 0, _, _ => []
  | _, backslashes, [] => List.replicate backslashes (.plain '\\')
  | fuel + 1, backslashes, c :: rest =>
    if c = '\\' then pieces fuel (backslashes + 1) rest
    else
      match tagAt? (c :: rest) with
      | some (inside, after) => .tag backslashes inside :: pieces fuel 0 after
      | none => List.replicate backslashes (.plain '\\') ++ .plain c :: pieces fuel 0 rest

/-- The pieces of a text. -/
def piecesOf (cs : List Char) : List Piece := pieces (cs.length + 1) 0 cs

/-! ## 2. Escaping -/

/-- A piece with its tag escaped. -/
def Piece.escaped : Piece → List Char
  | .plain c => [c]
  | .tag backslashes inside => List.replicate (2 * backslashes + 1) '\\' ++ bracketed inside

/-- Whether a text ends in exactly one backslash. -/
def endsInOneBackslash (cs : List Char) : Bool :=
  ['\\'].isSuffixOf cs && !(['\\', '\\'].isSuffixOf cs)

/-- The text as markup that shows it. A single backslash at the end is doubled, so that it does not
escape what is written behind it. -/
def escape (s : String) : List Char :=
  let escaped := (piecesOf s.toList).flatMap Piece.escaped
  if endsInOneBackslash escaped then escaped ++ ['\\'] else escaped

/-! ## 3. Rendering -/

/-- What can be wrong with markup. -/
inductive Fault
  /-- A closing tag that closes nothing, and its position in the markup. -/
  | unmatched (tag : String) (position : Nat)
  | nothingOpen (position : Nat)
  /-- Parameters of an action, as they are given and as they are read. -/
  | parameters (given read : String) (fault : Literal.Fault)
  /-- A style with a colour that lacks a part. -/
  | colourPart
  deriving DecidableEq, Repr

/-- The fault in words. -/
def Fault.describe : Fault → String
  | .unmatched tag position =>
    "closing tag '" ++ tag ++ "' at position " ++ toString position ++
      " doesn't match any open tag"
  | .nothingOpen position =>
    "closing tag '[/]' at position " ++ toString position ++ " has nothing to close"
  | .parameters given read fault =>
    let place := if fault.isSyntactic then Text.quoted read ++ " in " else ""
    "error parsing " ++ place ++ Text.quoted given ++ "; " ++ fault.describe
  | .colourPart => "invalid literal for int() with base 10: ''"

/-- A tag that is open, from a position of the shown text on. -/
structure OpenTag where
  name : List Char
  parameters : List Char
  start : Nat
  deriving DecidableEq, Repr

/-- The name of a tag and its parameters. -/
def splitTag (start : Nat) (inside : List Char) : OpenTag :=
  ⟨inside.takeWhile (· != '='), (inside.dropWhile (· != '=')).drop 1, start⟩

/-- Whether a tag is an action. -/
def OpenTag.isAction (tag : OpenTag) : Bool := tag.name.head? == some '@'

/-- The style of a tag up to a position. -/
def OpenTag.spanTo (stop : Nat) (tag : OpenTag) : Span :=
  ⟨tag.start, stop, tag.name ++ ' ' :: tag.parameters⟩

/-- The style that a tag names. -/
def styleName (name : List Char) : Except Fault (List Char) :=
  match Style.normalName? name with
  | some normal => .ok normal
  | none => .error .colourPart

/-- The last open tag of the given name, and the others. -/
def takeLast? (name : List Char) : List OpenTag → Option (OpenTag × List OpenTag)
  | [] => none
  | top :: rest =>
    if top.name = name then some (top, rest)
    else (takeLast? name rest).map fun (tag, others) => (tag, top :: others)

/-- The literal in the parameters of an action. They may call a handler by its name; then the
literal is what the handler is given, or nothing. -/
def actionLiteral (parameters : List Char) : List Char :=
  let given := parameters.dropWhile fun c => c == '.' || Text.isWordChar c
  let isCall := given.head? == some '(' && given.getLast? == some ')' && !given.contains '\n'
  if given.isEmpty then ['(', ')'] else if isCall then given else parameters

/-- Whether a tag may be closed. -/
def checkAction (tag : OpenTag) : Except Fault Unit :=
  if tag.isAction && !tag.parameters.isEmpty then
    let literal := actionLiteral (Text.trim Text.isBlank tag.parameters)
    match Literal.fault? literal with
    | none => .ok ()
    | some fault =>
      .error (.parameters (String.ofList tag.parameters) (String.ofList literal) fault)
  else .ok ()

/-- Opens or closes a tag behind `shown` characters. `opened` are the open tags, the last one first;
those that are left are answered, and the span of the tag that was closed. -/
def applyTag (position shown : Nat) (inside : List Char) (opened : List OpenTag) :
    Except Fault (List OpenTag × Option Span) := do
  let tag := splitTag shown inside
  match tag.name with
  | '/' :: name =>
    let (closed, opened) ←
      if (Text.trim Text.isBlank name).isEmpty then
        match opened with
        | [] => throw (.nothingOpen position)
        | top :: rest => pure (top, rest)
      else
        match takeLast? (← styleName name) opened with
        | some closed => pure closed
        | none => throw (.unmatched (String.ofList (bracketed inside)) position)
    checkAction closed
    return (opened, some (closed.spanTo shown))
  | name => return ({ tag with name := ← styleName name } :: opened, none)

/-- A run of text between tags without the backslash before each bracket. -/
def dropBracketEscapes : List Char → List Char
  | '\\' :: '[' :: rest => '[' :: dropBracketEscapes rest
  | c :: rest => c :: dropBracketEscapes rest
  | [] => []

/-- A character that moves the carriage or rings, and is never put out. -/
def isCarriageControl (c : Char) : Bool := [0x07, 0x08, 0x0B, 0x0C, 0x0D].contains c.toNat

/-- A run of text with pictographs, and without what is never put out. -/
def depict (run : List Char) : List Char :=
  (Text.Pictograph.depict run).filter fun c => !isCarriageControl c

/-- A run of text between tags as it is shown: without escapes, and with pictographs. -/
def showRun (run : List Char) : List Char := depict (dropBracketEscapes run)

/-- Renders pieces behind `shown` characters; `run` is the plain text that has not been put out yet,
last character first. -/
def renderPieces : (position shown : Nat) → (opened : List OpenTag) → (run : List Char) →
    List Piece → Except Fault Styled
  | _, shown, opened, run, [] =>
    let last := showRun run.reverse
    .ok ⟨last, opened.map (OpenTag.spanTo (shown + last.length))⟩
  | position, shown, opened, run, .plain c :: rest =>
    renderPieces (position + 1) shown opened (c :: run) rest
  | position, shown, opened, run, .tag backslashes inside :: rest => do
    let next := position + backslashes + (bracketed inside).length
    -- An odd backslash belongs to the bracket, which is then no tag.
    let isEscaped := backslashes % 2 = 1
    let before := showRun run.reverse ++ List.replicate (backslashes / 2) '\\' ++
      if isEscaped then showRun (bracketed inside) else []
    let shown := shown + before.length
    let (opened, closed) ←
      if isEscaped then pure (opened, none)
      else applyTag (position + backslashes) shown inside opened
    let after ← renderPieces next shown opened [] rest
    return ⟨before ++ after.chars, closed.toList ++ after.spans⟩

/-- The text that markup shows, with its styles. A text without brackets has no escapes. -/
def render (markup : List Char) : Except Fault Styled :=
  if markup.contains '[' then renderPieces 0 0 [] [] (piecesOf markup)
  else .ok (.plain (depict markup))

/-! ## 4. Styles on a line -/

/-- Whether the style of a span can be put out. One that is unknown does not show; one with a colour
that lacks a part cannot be read at all. -/
def checkSpan (s : Span) : Except Fault Unit :=
  if Style.read [] (Text.words s.style) = .partMissing then .error .colourPart else .ok ()

/-- Some lines with styles as they are put out, each on `width` cells. -/
def settleLines (width : Nat) (pads : Bool) (lines : List Styled) :
    Except Fault (List (List Char)) := do
  (lines.flatMap (·.spans)).forM checkSpan
  return lines.map (Styled.settle width pads)

end Markup
end CommitStore
