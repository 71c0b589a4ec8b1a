import CommitStore.Report.Styled
import CommitStore.Text.Blank
set_option autoImplicit false

/-!
# Wrapping text to a width

A text is broken between words so that each line fits the width. Blanks belong to the word before
them and do not count for whether it fits; those at the beginning of a text belong to its first
word. A word that is wider than the width is folded over several lines, or left to be cut off,
depending on `folds`.
-/

namespace CommitStore
namespace Wrap

open Text (Cluster cells isBlank)

/-! ## 1. Words -/

/-- Puts a character in front of words; blanks stay with the word before them. -/
def consWord (c : Char) : List (List Char) → List (List Char)
  | [] => [[c]]
  | word :: rest =>
    if isBlank c && !(word.head?.any isBlank) then [c] :: word :: rest else (c :: word) :: rest

/-- The words of a text with the blanks around them; nothing of the text is lost. -/
def words (cs : List Char) : List (List Char) :=
  match cs.foldr consWord [] with
  | first :: second :: rest =>
    if first.all isBlank then (first ++ second) :: rest else first :: second :: rest
  | other => other

/-! ## 2. Lines -/

/-- Cuts clusters into pieces of at most `width` cells; `piece` is the current piece and `size` the
number of its cells. A cluster that is wider than a piece may be has an empty piece before it. -/
def chop (width : Nat) : (size : Nat) → (piece : List Char) → List Cluster → List (List Char)
  | size, piece, [] => if size = 0 then [] else [piece]
  | size, piece, k :: rest =>
    if width < size + k.cells then piece :: chop width k.cells k.chars rest
    else chop width (size + k.cells) (piece ++ k.chars) rest

/-- The pieces in which a word that is too long is laid out; the first piece of all is not empty. -/
def wordPieces (width : Nat) (folds started : Bool) (word : List Char) : List (List Char) :=
  if folds then
    let pieces := chop width 0 [] (Text.clusters word)
    if started then pieces else pieces.dropWhile List.isEmpty
  else [word]

/-- Lays words out on lines. `offset` is the number of cells of the current line `line`, and
`started` says whether anything has been laid out. -/
def layOut (width : Nat) (folds : Bool) : (offset : Nat) → (started : Bool) → (line : List Char) →
    List (List Char) → List (List Char)
  | _, _, line, [] => [line]
  | offset, started, line, word :: rest =>
    let need := cells (Text.trimEnd isBlank word)
    if offset + need ≤ width then layOut width folds (offset + cells word) true (line ++ word) rest
    else if width < need then
      let pieces := wordPieces width folds started word
      -- The last piece stays open for the words that follow.
      match pieces.getLast? with
      | none => layOut width folds offset true (line ++ word) rest
      | some last =>
        (if started then [line] else []) ++ pieces.dropLast ++
          layOut width folds (cells last) true last rest
    else if offset != 0 && started then
      line :: layOut width folds (cells word) true word rest
    else layOut width folds offset true (line ++ word) rest

/-- The line without as many blanks at its end as it has characters too many. -/
def dropExcessBlanks (width : Nat) (line : List Char) : List Char :=
  let excess := line.length - width
  let blanks := (line.reverse.takeWhile isBlank).length
  line.take (line.length - min excess blanks)

/-- The lines of a text, broken to a width. -/
def brokenLines (width : Nat) (folds : Bool) (t : Styled) : List Styled :=
  t.lines.flatMap fun line =>
    let line := line.expandTabs
    let pieces := layOut width folds 0 false [] (words line.chars)
    (line.divide (pieces.map List.length)).map fun piece =>
      piece.withChars (dropExcessBlanks width piece.chars)

/-! ## 3. Both forms -/

/-- A running text: long words are folded, and what still does not fit is cut off. -/
def running (width : Nat) (t : Styled) : List Styled :=
  (brokenLines width true t).map fun line =>
    if width < cells line.chars then line.withChars (Text.fit width line.chars) else line

/-- A cell of a table: what does not fit is cut off and an ellipsis put behind it; short lines are
padded. -/
def boxed (width : Nat) (t : Styled) : List Styled :=
  (brokenLines width false t).map fun line =>
    line.withChars
      (if width < cells line.chars then Text.fit (width - 1) line.chars ++ ['…']
        else Text.padCells width line.chars)

end Wrap
end CommitStore
