set_option autoImplicit false

/-!
# Runs of digits

Numbers of a fixed width: `hexDigits` keeps the last digits of a number, `padded` never drops one.
-/

namespace CommitStore
namespace Text

/-- The last `width` hexadecimal digits of a number, in lower case, first digit first. -/
def hexDigits : (width : Nat) → (n : Nat) → List Char
  | 0, _ => []
  | width + 1, n => hexDigits width (n / 16) ++ [Nat.digitChar (n % 16)]

theorem length_hexDigits (width n : Nat) : (hexDigits width n).length = width := by
  induction width generalizing n with
  | zero => rfl
  | succ width ih => simp [hexDigits, ih]

/-- A number in decimal, with zeros in front up to `width` digits. -/
def padded (width n : Nat) : List Char :=
  let digits := Nat.toDigits 10 n
  List.replicate (width - digits.length) '0' ++ digits

end Text
end CommitStore
