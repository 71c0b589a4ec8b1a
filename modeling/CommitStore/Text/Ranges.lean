set_option autoImplicit false

/-!
# Classes of characters given by ranges

A standard fixes a class of characters as a list of ranges of code points. `covers` is the
membership test that every such table of this library goes through, so the tables themselves
(`Text/Blank`, `Text/Printable`, `Text/Cells`) hold data only.
-/

namespace CommitStore
namespace Text

/-- Whether a code point lies in one of the closed ranges. -/
def covers (ranges : List (Nat × Nat)) (code : Nat) : Bool :=
  ranges.any fun range => decide (range.1 ≤ code) && decide (code ≤ range.2)

theorem covers_iff {ranges : List (Nat × Nat)} {code : Nat} :
    covers ranges code = true ↔ ∃ range ∈ ranges, range.1 ≤ code ∧ code ≤ range.2 := by
  simp [covers]

end Text
end CommitStore
