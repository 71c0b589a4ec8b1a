import CommitStore.Text.Order
set_option autoImplicit false

/-!
# Similar names

A mistyped name is answered with the names it may have meant. Two texts are as similar as twice the
number of characters in their common blocks, over the number of all their characters: the longest
common block is taken first, then the longest ones to its left and to its right, and so on.
-/

namespace CommitStore
namespace Text

/-- The length of the longest common beginning of two texts. -/
def commonStart : List Char → List Char → Nat
  | a :: as, b :: bs => if a = b then commonStart as bs + 1 else 0
  | _, _ => 0

/-- A block that two texts share: where it begins in each, and its length. -/
structure Block where
  left : Nat
  right : Nat
  length : Nat
  deriving DecidableEq, Repr

/-- The longer of two blocks, the first one if they are equally long. -/
def Block.longer (a b : Block) : Block := if a.length < b.length then b else a

/-- The longest common block of two texts; of several the one that comes first in the first text,
then in the second. -/
def longestBlock (as bs : List Char) : Block :=
  ((List.range as.length).flatMap fun i =>
    (List.range bs.length).map fun j => ⟨i, j, commonStart (as.drop i) (bs.drop j)⟩).foldl
      Block.longer ⟨0, 0, 0⟩

/-- The number of characters in common blocks; `fuel` bounds how often the texts are cut. -/
def sharedLength : (fuel : Nat) → List Char → List Char → Nat
  | 0, _, _ => 0
  | fuel + 1, as, bs =>
    let block := longestBlock as bs
    if block.length = 0 then 0
    else
      sharedLength fuel (as.take block.left) (bs.take block.right) + block.length +
        sharedLength fuel (as.drop (block.left + block.length))
          (bs.drop (block.right + block.length))

/-- Whether two texts share at least three fifths of their characters. They share no more than the
shorter one has, so that texts of very different lengths are told apart without a search. -/
def isSimilar (a b : String) : Bool :=
  let as := a.toList
  let bs := b.toList
  decide (6 * (as.length + bs.length) ≤ 20 * min as.length bs.length) &&
    decide (6 * (as.length + bs.length) ≤ 20 * sharedLength (as.length + 1) as bs)

/-- The names that a mistyped one may have meant, in order. -/
def similarNames (names : List String) (mistyped : String) : List String :=
  (names.filter fun name => isSimilar name mistyped).mergeSort notAfter

end Text
end CommitStore
