import CommitStore.Literal.Number
import CommitStore.Text.Name
set_option autoImplicit false

/-!
# Tokens of a literal

A literal is read as words, numbers, quoted texts and marks. Brackets have to close in the order in
which they were opened. Outside of brackets the end of a line is a token, and so is a change of the
blanks at the start of a line. Tokens are read up to the first fault; what is wrong there only
counts if the tokens before it are of no other use (`Ending`).
-/

namespace CommitStore
namespace Literal

/-- A token. -/
inductive Token
  | word (letters : String)
  | number (imaginary : Bool)
  /-- A quoted text with the letters in front of its quote, in lower case. -/
  | text (letters : String) (body : List Char)
  | mark (signs : String)
  | lineEnd
  | indent
  | unindent
  | finish
  deriving DecidableEq, Repr

/-- A token with the line it begins on, and how many brackets are open behind it. -/
structure Placed where
  token : Token
  line : Nat
  depth : Nat
  /-- Whether the text has to end behind the token for the token to end there. -/
  endsText : Bool
  deriving DecidableEq, Repr

/-- A bracket that is open, and its line. -/
structure Bracket where
  opening : Char
  line : Nat
  deriving DecidableEq, Repr

/-- How tokens end, if they do not end well. -/
structure Ending where
  fault : Fault
  /-- Whether the fault is seen at once, and not only by who asks for one more token. -/
  isPlain : Bool
  /-- The last bracket that is open there. -/
  bracket : Option Bracket
  deriving DecidableEq, Repr

/-- The tokens of a text, the last of them `finish` if there is no other ending. -/
structure Tokens where
  list : List Placed
  ending : Option Ending
  deriving DecidableEq, Repr

/-! ## 1. Quoted texts -/

/-- The body of a text up to its quote mark, and what follows it; `none` if the line or the text
ends before. A backslash keeps the character after it from ending the body. -/
def closeText? (quote : Char) : List Char → Option (List Char × List Char)
  | [] => none
  | '\n' :: _ => none
  | '\\' :: c :: rest =>
    (closeText? quote rest).map fun (body, after) => ('\\' :: c :: body, after)
  | c :: rest =>
    if c = quote then some ([], rest)
    else (closeText? quote rest).map fun (body, after) => (c :: body, after)

/-- The body of a text up to three quote marks, and what follows them. -/
def closeBlock? (quote : Char) : List Char → Option (List Char × List Char)
  | [] => none
  | '\\' :: c :: rest =>
    (closeBlock? quote rest).map fun (body, after) => ('\\' :: c :: body, after)
  | c :: rest =>
    if [quote, quote, quote].isPrefixOf (c :: rest) then some ([], rest.drop 2)
    else (closeBlock? quote rest).map fun (body, after) => (c :: body, after)

/-- The line on which it is found out that a text is not closed. A block ends with the whole text
only, and a newline at its very end opens no line. -/
def unclosedLine (isBlock : Bool) : (line : Nat) → List Char → Nat
  | line, [] => line
  | line, '\\' :: '\n' :: rest =>
    if rest.isEmpty then line else unclosedLine isBlock (line + 1) rest
  | line, '\\' :: _ :: rest => unclosedLine isBlock line rest
  | line, '\n' :: rest =>
    if rest.isEmpty || !isBlock then line else unclosedLine isBlock (line + 1) rest
  | line, _ :: rest => unclosedLine isBlock line rest

/-- The body of the text that begins with a quote mark, and what follows it. -/
def quotedBody (quote : Char) (line : Nat) (rest : List Char) :
    Except Fault (List Char × List Char) :=
  if [quote, quote].isPrefixOf rest then
    match closeBlock? quote (rest.drop 2) with
    | some found => .ok found
    | none => .error (.unterminatedBlock (unclosedLine true line (rest.drop 2)))
  else
    match closeText? quote rest with
    | some found => .ok found
    | none => .error (.unterminatedText (unclosedLine false line rest))

/-- Whether a character is a quote mark. -/
def isQuote (c : Char) : Bool := c.toNat == 0x22 || c.toNat == 0x27

/-! ## 2. Words -/

/-- The letters that may stand in front of a quote mark. -/
def textLetters : List String := ["b", "u", "r", "f", "br", "rb", "fr", "rf"]

/-- The first character of a word that may not stand there. -/
def strayLetter? : List Char → Option Char
  | [] => none
  | first :: rest =>
    if Text.beginsName first then rest.find? fun c => !Text.continuesName c else some first

/-- The word at the start of a text, or the quoted text that it belongs to. -/
def word (line : Nat) (cs : List Char) : Except Fault (Token × List Char) := do
  let letters := cs.takeWhile continuesWord
  let rest := cs.dropWhile continuesWord
  let small := String.ofList (letters.map Char.toLower)
  match rest with
  | c :: body =>
    if isQuote c && textLetters.contains small then
      let (body, after) ← quotedBody c line body
      return (.text small body, after)
  | [] => pure ()
  match strayLetter? letters with
  | some c => throw (.badCharacter c)
  | none => return (.word (String.ofList letters), rest)

/-! ## 3. Marks -/

/-- The marks of more than one character, longer ones first. -/
def longMarks : List String :=
  ["**=", "//=", "<<=", ">>=", "...", "**", "//", "<<", ">>", "<=", ">=", "==", "!=", "<>", "->",
   ":=", "+=", "-=", "*=", "/=", "%=", "&=", "|=", "^=", "@="]

/-- The mark at the start of a text. -/
def mark (c : Char) (rest : List Char) : Token × List Char :=
  match longMarks.find? fun signs => signs.toList.isPrefixOf (c :: rest) with
  | some signs => (.mark signs, (c :: rest).drop signs.length)
  | none => (.mark (String.singleton c), rest)

/-- The bracket that a bracket closes. -/
def opening? : Char → Option Char
  | ')' => some '('
  | ']' => some '['
  | '\x7d' => some '\x7b'
  | _ => none

/-- Whether a character opens a bracket. -/
def opensBracket (c : Char) : Bool := c == '(' || c == '[' || c == '\x7b'

/-- The brackets that are open behind a character, the last one first. -/
def bracketsBehind (c : Char) (line : Nat) (opened : List Bracket) :
    Except Fault (List Bracket) :=
  if opensBracket c then .ok (⟨c, line⟩ :: opened)
  else
    match opening? c, opened with
    | none, _ => .ok opened
    | some _, [] => .error (.unmatched c)
    | some opening, last :: rest =>
      if last.opening = opening then .ok rest
      else .error (.mismatched c last.opening (if last.line = line then none else some last.line))

/-- The token that begins with a character, which begins no number of a line. -/
def token (line : Nat) (c : Char) (rest : List Char) : Except Fault (Token × List Char) := do
  if isQuote c then
    let (body, after) ← quotedBody c line rest
    return (.text "" body, after)
  else if c.isDigit || (c == '.' && rest.head?.any Char.isDigit) then
    let (imaginary, after) ← number (c :: rest)
    return (.number imaginary, after)
  else if continuesWord c then word line (c :: rest)
  else if Text.isPrintable c then return mark c rest
  else throw (.badCharacter c)

/-! ## 4. Starts of lines -/

/-- How far a line is moved in, with tabs up to the next multiple of eight, and with tabs that count
once. -/
structure Indent where
  wide : Nat
  narrow : Nat
  deriving DecidableEq, Repr

/-- Where a line begins: behind its blanks, on a line that may be a later one. -/
structure LineStart where
  indent : Indent
  line : Nat
  rest : List Char
  deriving DecidableEq, Repr

/-- The place behind a backslash, and the line; the fault if no line follows. -/
def continued (line : Nat) : List Char → Except Fault (Nat × List Char)
  | ['\n'] => .error .unexpectedEnd
  | '\n' :: rest => .ok (line + 1, rest)
  | _ => .error .strayBackslash

/-- The start of a line. A form feed starts it anew; a backslash at its end continues it, and `kept`
is how far the line was moved in before the first one. -/
def lineStart : (fuel : Nat) → (kept : Nat) → LineStart → Except Fault LineStart
  | 0, _, s => .ok s
  | fuel + 1, kept, s =>
    match s.rest with
    | ' ' :: rest =>
      lineStart fuel kept { s with indent := ⟨s.indent.wide + 1, s.indent.narrow + 1⟩, rest }
    | '\t' :: rest =>
      let indent : Indent := ⟨(s.indent.wide / 8 + 1) * 8, s.indent.narrow + 1⟩
      lineStart fuel kept { s with indent, rest }
    | '\x0c' :: rest => lineStart fuel kept { s with indent := ⟨0, 0⟩, rest }
    | '\\' :: rest => do
      let (line, rest) ← continued s.line rest
      lineStart fuel (if kept = 0 then s.indent.wide else kept) { s with line, rest }
    | _ => .ok (if kept = 0 then s else { s with indent := ⟨kept, kept⟩ })

/-- The tokens for a change of the indent, and the indents that are left, the last one first. -/
def indentTokens (indent : Indent) : List Indent → Except Fault (List Token × List Indent)
  | [] =>
    if indent.wide = 0 then
      if indent.narrow = 0 then .ok ([], []) else .error .mixedIndentation
    else if indent.narrow = 0 then .error .mixedIndentation
    else .ok ([.indent], [indent])
  | last :: rest =>
    if indent.wide = last.wide then
      if indent.narrow = last.narrow then .ok ([], last :: rest) else .error .mixedIndentation
    else if last.wide < indent.wide then
      if indent.narrow ≤ last.narrow then .error .mixedIndentation
      else .ok ([.indent], indent :: last :: rest)
    else unindentTokens indent rest
where
  /-- The tokens for going back to an earlier indent, which is among those given. -/
  unindentTokens (indent : Indent) : List Indent → Except Fault (List Token × List Indent)
    | [] =>
      if indent.wide != 0 then .error .unevenUnindent
      else if indent.narrow != 0 then .error .mixedIndentation
      else .ok ([.unindent], [])
    | last :: rest =>
      if indent.wide < last.wide then
        (unindentTokens indent rest).map fun (tokens, left) => (.unindent :: tokens, left)
      else if indent.wide != last.wide then .error .unevenUnindent
      else if indent.narrow != last.narrow then .error .mixedIndentation
      else .ok ([.unindent], last :: rest)

/-! ## 5. All tokens -/

/-- Where in a text tokens are read. -/
structure Place where
  rest : List Char
  line : Nat
  opened : List Bracket
  indents : List Indent

/-- An ending at a place. -/
def Place.ending (p : Place) (fault : Fault) (isPlain : Bool) : Tokens :=
  ⟨[], some ⟨fault, isPlain, p.opened.head?⟩⟩

/-- What is wrong with the end of the text, or the last token. -/
def Place.finish (p : Place) : Tokens :=
  match p.opened with
  | [] => ⟨[⟨.finish, p.line, 0, true⟩], none⟩
  | last :: _ => p.ending (.neverClosed last.opening) false

/-- What a fault at the end of a continued line is for a place. -/
def Place.cut (p : Place) (fault : Fault) : Tokens :=
  match fault, p.opened with
  | .unexpectedEnd, last :: _ => p.ending (.neverClosed last.opening) false
  | _, _ => p.ending fault false

/-- Whether a token cannot go on whatever follows it: a text whose quote marks are not those of an
empty one, and a mark of three signs. -/
def Token.isClosed (t : Token) (written : List Char) : Bool :=
  match t with
  | .text letters _ => letters.length + 2 < written.length
  | .mark signs => signs.length = 3
  | _ => false

/-- Tokens in front of others. -/
def Tokens.after (first : List Placed) (ts : Tokens) : Tokens :=
  { ts with list := first ++ ts.list }

/-- The number of newlines in a text. -/
def countLines (cs : List Char) : Nat := cs.count '\n'

/-- A blank between tokens. -/
def separates (c : Char) : Bool := c == ' ' || c == '\t' || c.toNat == 0x0C

/-- The tokens from a place on; `fresh` says that it is the start of a line. `fuel` bounds the
number of steps by the length of the text. -/
def tokensFrom : (fuel : Nat) → (fresh : Bool) → Place → Tokens
  | 0, _, p => p.finish
  | fuel + 1, true, p =>
    match lineStart (p.rest.length + 1) 0 ⟨⟨0, 0⟩, p.line, p.rest⟩ with
    | .error fault => p.cut fault
    | .ok start =>
      let p := { p with rest := start.rest, line := start.line }
      -- A line with nothing on it, or with a remark only, may be moved in as it likes.
      if start.rest.head?.any (fun c => c == '#' || c == '\n') || !p.opened.isEmpty then
        match start.rest with
        | '\n' :: rest => tokensFrom fuel true { p with rest, line := p.line + 1 }
        | '#' :: rest =>
          match rest.dropWhile (· != '\n') with
          | '\n' :: rest => tokensFrom fuel true { p with rest, line := p.line + 1 }
          | _ => { p with rest := [] }.finish
        | _ => tokensFrom fuel false p
      else
        match indentTokens start.indent p.indents with
        | .error fault => p.ending fault false
        | .ok (changes, indents) =>
          (tokensFrom fuel false { p with indents }).after
            (changes.map fun t => ⟨t, p.line, 0, false⟩)
  | fuel + 1, false, p =>
    match p.rest with
    | [] => p.finish
    | c :: rest =>
      if separates c then tokensFrom fuel false { p with rest }
      else if c = '#' then tokensFrom fuel false { p with rest := rest.dropWhile (· != '\n') }
      else if c = '\n' then
        let ts := tokensFrom fuel true { p with rest, line := p.line + 1 }
        if p.opened.isEmpty then ts.after [⟨.lineEnd, p.line, 0, false⟩] else ts
      else if c = '\\' then
        match continued p.line rest with
        | .ok (line, rest) => tokensFrom fuel false { p with rest, line }
        | .error fault => p.cut fault
      else
        match token p.line c rest with
        | .error fault => p.ending fault true
        | .ok (first, after) =>
          match bracketsBehind c p.line p.opened with
          | .error fault => p.ending fault true
          | .ok opened =>
            let passed := (c :: rest).take (rest.length + 1 - after.length)
            let behind := { p with rest := after, line := p.line + countLines passed, opened }
            let endsText := after.isEmpty && !first.isClosed passed
            (tokensFrom fuel false behind).after [⟨first, p.line, opened.length, endsText⟩]

/-- The tokens of a text. -/
def tokens (cs : List Char) : Tokens := tokensFrom (2 * cs.length + 2) true ⟨cs, 1, [], []⟩

end Literal
end CommitStore
