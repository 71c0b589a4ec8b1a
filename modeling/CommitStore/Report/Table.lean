import CommitStore.Text.Cells
import CommitStore.Text.Blank
set_option autoImplicit false

/-!
# Tables

A table has a header and rows, and columns that are one blank apart on either side, except at the
edges of the table. A column is as wide as its widest cell unless its width is fixed. If the table
is too wide for the console, the widest columns whose widths are not fixed give way first, down to
the next widest ones; as a last resort all columns give way evenly. After that every column is
measured again at the width it was left with.

Shares are rounded to the nearest whole cell, and a half goes to the even neighbour.
-/

namespace CommitStore
namespace Table

open Text (cells)

/-- A column: its header, and its other cells, which are texts of some kind. -/
structure Column (α : Type) where
  /-- The width that the column has in any case, without padding. -/
  fixed : Option Nat
  header : List Char
  body : List α

/-- The blanks on the two sides of a column. -/
structure Padding where
  left : Nat
  right : Nat

/-- The number of blanks of a column. -/
def Padding.total (p : Padding) : Nat := p.left + p.right

/-- The columns with their paddings: none at the edges of the table. -/
def withPadding {α : Type} (columns : List (Column α)) : List (Column α × Padding) :=
  columns.zipIdx.map fun (column, index) =>
    (column, ⟨if index = 0 then 0 else 1, if index + 1 = columns.length then 0 else 1⟩)

/-! ## 1. Measuring -/

/-- The number of cells of the longest line of a text. -/
def longestLine (cs : List Char) : Nat := ((Text.lines cs).map cells).foldl max 0

/-- The width that a cell wants, its padding included, where `limit` cells are to be had. -/
def wantedWidth (limit padding : Nat) (cs : List Char) : Nat :=
  if limit ≤ padding then limit else min limit (longestLine cs + padding)

/-- The width that a column wants. -/
def Column.wanted (limit : Nat) (column : Column (List Char)) (padding : Padding) : Nat :=
  if limit = 0 then 0
  else
    match column.fixed with
    | some width => min limit (width + padding.total)
    | none => ((column.header :: column.body).map (wantedWidth limit padding.total)).foldl max 0

/-! ## 2. Giving way -/

/-- The sum of some widths. -/
def sumOf : List Nat → Nat
  | [] => 0
  | width :: rest => width + sumOf rest

/-- The quotient of two numbers, rounded; a half goes to the even neighbour. -/
def roundedQuotient (numerator denominator : Nat) : Nat :=
  let quotient := numerator / denominator
  let rest := 2 * (numerator % denominator)
  if rest < denominator then quotient
  else if denominator < rest then quotient + 1
  else quotient + quotient % 2

/-- A column that gives way: its share, the most it gives up, and its width. -/
structure Share where
  ratio : Nat
  most : Nat
  width : Nat

/-- Takes `excess` cells from the columns in proportion to their shares; `ratios` is the sum of the
shares that have not been served. -/
def distribute : (excess ratios : Nat) → List Share → List Nat
  | _, _, [] => []
  | excess, ratios, share :: rest =>
    if share.ratio = 0 ∨ ratios = 0 then share.width :: distribute excess ratios rest
    else
      let given := min share.most (roundedQuotient (share.ratio * excess) ratios)
      (share.width - given) :: distribute (excess - given) (ratios - share.ratio) rest

/-- Takes `excess` cells from columns, none from those that have nothing to give. -/
def reduce (excess : Nat) (shares : List Share) : List Nat :=
  let shares := shares.map fun share => if share.most = 0 then { share with ratio := 0 } else share
  distribute excess (sumOf (shares.map (·.ratio))) shares

/-- One round of giving way: the widest of the columns that may, as far as to the next widest. -/
def collapseOnce (excess : Nat) (columns : List (Nat × Bool)) : Option (List (Nat × Bool)) :=
  let may : List Nat := (columns.filter (·.2)).map (·.1)
  let widest := may.foldl max 0
  let next := (may.filter (· != widest)).foldl max 0
  if widest = next then none
  else
    let shares : List Share := columns.map fun (width, gives) =>
      ⟨if gives ∧ width = widest then 1 else 0, min excess (widest - next), width⟩
    some ((reduce excess shares).zip (columns.map (·.2)))

/-- Rounds of giving way until the columns fit into `limit` cells or nothing gives way any more.
Each round takes at least one cell, so the total width bounds their number. -/
def collapse (limit : Nat) : (rounds : Nat) → List (Nat × Bool) → List (Nat × Bool)
  | 0, columns => columns
  | rounds + 1, columns =>
    let total := sumOf (columns.map (·.1))
    if total ≤ limit then columns
    else
      match collapseOnce (total - limit) columns with
      | none => columns
      | some columns => collapse limit rounds columns

/-- Takes the cells that are too many evenly from all columns. -/
def reduceEvenly (limit : Nat) (widths : List Nat) : List Nat :=
  if sumOf widths ≤ limit then widths
  else reduce (sumOf widths - limit) (widths.map fun width => ⟨1, width, width⟩)

/-- The widths of the columns, paddings included, on a console of `limit` cells. -/
def columnWidths (limit : Nat) (columns : List (Column (List Char) × Padding)) : List Nat :=
  let wanted := columns.map fun (column, padding) => max 1 (column.wanted limit padding)
  if sumOf wanted ≤ limit then wanted
  else
    let mayGive := columns.map fun (column, _) => column.fixed.isNone
    -- Widths that are still too large once nothing gives way any more are cut evenly.
    let collapsed := (collapse limit (sumOf wanted) (wanted.zip mayGive)).map (·.1)
    (columns.zip (reduceEvenly limit collapsed)).map fun ((column, padding), width) =>
      column.wanted width padding

/-! ## 3. Drawing -/

/-- The cells of a row, given by their widths and lines, as lines of one height. -/
def drawRow (fromBottom : Bool) (row : List (Nat × List (List Char))) : List (List Char) :=
  let height := (row.map fun (_, lines) => lines.length).foldl max 1
  let filled := row.map fun (width, lines) =>
    let missing := List.replicate (height - lines.length) (Text.blanks width)
    if fromBottom then missing ++ lines else lines ++ missing
  (List.range height).map fun index => filled.flatMap fun lines => lines.getD index []

/-- The number of rows of a table below its header. -/
def rowCount {α : Type} (columns : List (Column α)) : Nat :=
  (columns.map fun column => column.body.length).foldl max 0

end Table
end CommitStore
