import CommitStore.Text.Cells
import CommitStore.Text.Search
set_option autoImplicit false

/-!
# Styled texts

A text with styles on parts of it. Styles do not show in plain output, but they are not without
effect on its layout: in the end a line is put out in segments, which begin and end where styles do,
and its width is then the sum of the widths of its segments. What is drawn together across the edge
of a style is measured apart there (`settle`).

Where a text is divided, the parts get their shares of a span, and a span on nothing is lost; a text
that stays whole keeps all its spans.
-/

namespace CommitStore

/-! ## 1. Spans -/

/-- A style on the characters from one position up to another. -/
structure Span where
  start : Nat
  stop : Nat
  style : List Char
  deriving DecidableEq, Repr

/-- The span in a text that has `count` more characters in front of it. -/
def Span.shift (count : Nat) (s : Span) : Span :=
  { s with start := s.start + count, stop := s.stop + count }

/-- The share of a span that a part of a text gets, which begins at a position and has `size`
characters. -/
def Span.share? (position size : Nat) (s : Span) : Option Span :=
  let start := s.start - position
  let stop := min (s.stop - position) size
  if start < stop then some { s with start, stop } else none

/-- The span in a text that is cut behind `size` characters. -/
def Span.cut? (size : Nat) (s : Span) : Option Span :=
  if s.start < size then some { s with stop := min s.stop size } else none

/-- The span in a text that has got `count` characters more behind its `size` ones: one that went up
to the end still does. -/
def Span.extend (size count : Nat) (s : Span) : Span :=
  if size ≤ s.stop then { s with stop := s.stop + count } else s

/-! ## 2. Styled texts -/

/-- A text with styles. -/
structure Styled where
  chars : List Char
  spans : List Span
  deriving DecidableEq, Repr

namespace Styled

/-- A text without styles. -/
def plain (cs : List Char) : Styled := ⟨cs, []⟩

/-- One text after another. -/
def append (t u : Styled) : Styled :=
  ⟨t.chars ++ u.chars, t.spans ++ u.spans.map (Span.shift t.chars.length)⟩

/-- The text with other characters. If they are fewer, the spans end with them. -/
def withChars (t : Styled) (cs : List Char) : Styled :=
  ⟨cs, if cs.length < t.chars.length then t.spans.filterMap (Span.cut? cs.length) else t.spans⟩

/-- The part of a text that begins at a position and has `size` characters. -/
def part (t : Styled) (position size : Nat) : Styled :=
  ⟨(t.chars.drop position).take size, t.spans.filterMap (Span.share? position size)⟩

/-- The parts of a text from a position on. -/
def partsFrom (t : Styled) : (position : Nat) → (sizes : List Nat) → List Styled
  | _, [] => []
  | position, size :: rest => t.part position size :: t.partsFrom (position + size) rest

/-- The parts of a text, given by their sizes. A single part is the whole text. -/
def divide (t : Styled) (sizes : List Nat) : List Styled :=
  if sizes.length ≤ 1 then [t] else t.partsFrom 0 sizes

/-- The parts of a text are the text up to where the last of them ends. -/
theorem chars_partsFrom (t : Styled) (position : Nat) (sizes : List Nat) :
    (t.partsFrom position sizes).flatMap (·.chars) =
      (t.chars.drop position).take (sizes.foldr (· + ·) 0) := by
  induction sizes generalizing position with
  | nil => simp [partsFrom]
  | cons size rest ih => simp [partsFrom, part, ih, List.take_add, List.drop_drop]

/-- The lines of a text, without the newlines between them. -/
def lines (t : Styled) : List Styled :=
  (t.divide (((Text.split '\n' t.chars).map List.length).intersperse 1)).filter
    fun part => part.chars != ['\n']

/-! ## 3. Tabs -/

/-- The part of a line up to a tab, which begins `offset` cells into the line, with blanks for the
tab up to the next multiple of eight cells; and the cells up to there. -/
def fillTab (offset : Nat) (t : Styled) : Styled × Nat :=
  let chars := t.chars.dropLast ++ [' ']
  let stop := offset + Text.cells chars
  let fill := (8 - stop % 8) % 8
  (⟨chars ++ Text.blanks fill, t.spans.map (Span.extend chars.length fill)⟩, stop + fill)

/-- The parts of a line in one, with blanks for their tabs; all parts but the last one end in a
tab. -/
def joinTabs : (offset : Nat) → List Styled → Styled
  | _, [] => plain []
  | _, [last] => last
  | offset, first :: rest =>
    let (filled, stop) := fillTab offset first
    filled.append (joinTabs stop rest)

/-- The sizes of the parts of a line that end in a tab, and of the rest. -/
def tabSizes : List (List Char) → List Nat
  | [] => []
  | [last] => [last.length]
  | first :: rest => (first.length + 1) :: tabSizes rest

/-- The line with blanks for its tabs. -/
def expandTabs (t : Styled) : Styled := joinTabs 0 (t.divide (tabSizes (Text.split '\t' t.chars)))

/-! ## 4. Segments -/

/-- Whether a style begins or ends at a position. -/
def isEdge (t : Styled) (position : Nat) : Bool :=
  t.spans.any fun s => s.start == position || s.stop == position

/-- The characters of a text in segments: a new one begins at every edge of a style. -/
def segments (t : Styled) : List (List Char) :=
  (t.chars.zipIdx.splitBy fun _ (_, position) => !t.isEdge position).map
    fun segment => segment.map (·.1)

/-- The cells that segments take. -/
def segmentCells : List (List Char) → Nat
  | [] => 0
  | segment :: rest => Text.cells segment + segmentCells rest

/-- The segments as far as they fit into `width` cells. The one that does not leave a cell free is
the last. -/
def crop : (width : Nat) → List (List Char) → List Char
  | _, [] => []
  | width, segment :: rest =>
    if Text.cells segment < width then segment ++ crop (width - Text.cells segment) rest
    else Text.fit width segment

/-- The line as it is put out, at most `width` cells wide, and not less if it is padded. -/
def settle (width : Nat) (pads : Bool) (t : Styled) : List Char :=
  let segments := t.segments
  let count := segmentCells segments
  if width < count then crop width segments
  else if pads then t.chars ++ Text.blanks (width - count)
  else t.chars

end Styled
end CommitStore
