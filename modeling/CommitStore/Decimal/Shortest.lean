set_option autoImplicit false

/-!
# The shortest decimal of a double

A finite double is `m · 2^q`. Every real number closer to it than to its neighbours reads back as
this double, and so do the two midpoints when `m` is even. Among the decimals in that interval the
shortest one is wanted, and of two shortest the one nearer to the double.

`shortest` tries 1, 2, … 17 digits. On the grid of decimals with that many digits only the two
points next to the double can lie in the interval if any does, so it tests these two, in exact
arithmetic on natural numbers.
-/

namespace CommitStore
namespace Decimal

/-! ## 1. The parts of a double -/

/-- A finite positive double: `mantissa · 2^exponent`, and whether the gap to the next smaller
double is half the gap to the next larger one. -/
structure Binary where
  mantissa : Nat
  exponent : Int
  narrowBelow : Bool
  deriving DecidableEq, Repr

/-- The weight of the exponent field of a bit pattern, which lies above 52 bits of fraction. -/
def fieldUnit : Nat := 0x10000000000000

/-- The exponent field of a bit pattern, eleven bits wide. -/
def exponentField (bits : UInt64) : Nat := bits.toNat / fieldUnit % 2048

/-- The parts of the double with the given bit pattern, its sign apart; `none` for the zeros, the
infinities and the values that are no number. -/
def Binary.ofBits? (bits : UInt64) : Option Binary :=
  let fraction := bits.toNat % fieldUnit
  let field := exponentField bits
  if field = 2047 then none
  else if field = 0 then
    if fraction = 0 then none else some ⟨fraction, -1074, false⟩
  else some ⟨fieldUnit + fraction, (field : Int) - 1075, decide (fraction = 0) && field != 1⟩

/-! ## 2. Comparing with a decimal grid -/

/-- Everything over one denominator: the double, the ends of its interval, and `unit`, the step of
the decimal grid `10^power`. -/
structure Scaled where
  value : Nat
  low : Nat
  high : Nat
  unit : Nat
  deriving Repr

/-- The double, its interval and the step `10^power`, each multiplied by the same positive number
that makes all of them whole. -/
def Binary.scale (b : Binary) (power : Int) : Scaled :=
  -- Of the two powers of an exponent at most one is not 1, the other one is on the far side.
  let twos := Nat.pow 2 b.exponent.toNat
  let step := Nat.pow 10 power.toNat
  let scaleTwo := Nat.pow 2 (-b.exponent).toNat
  let scaleTen := Nat.pow 10 (-power).toNat
  let gap := twos * scaleTen
  { value := 4 * b.mantissa * gap
    low := 4 * b.mantissa * gap - (if b.narrowBelow then gap else 2 * gap)
    high := 4 * b.mantissa * gap + 2 * gap
    unit := 4 * step * scaleTwo }

/-- Whether the multiple `n` of the step reads back as the double. -/
def Scaled.readsBack (s : Scaled) (even : Bool) (n : Nat) : Bool :=
  if even then decide (s.low ≤ n * s.unit) && decide (n * s.unit ≤ s.high)
  else decide (s.low < n * s.unit) && decide (n * s.unit < s.high)

/-- The multiple of `10^power` that is nearest to the double among the two next to it which read
back, the even one of two that are equally near. -/
def Binary.nearestOn? (b : Binary) (power : Int) : Option Nat :=
  let s := b.scale power
  -- The two points of the grid next to the double are `below` and `below + 1`.
  let below := s.value / s.unit
  let even := decide (b.mantissa % 2 = 0)
  match s.readsBack even below && below != 0, s.readsBack even (below + 1) with
  | true, false => some below
  | false, true => some (below + 1)
  | false, false => none
  | true, true =>
    let toBelow := s.value - below * s.unit
    let toAbove := (below + 1) * s.unit - s.value
    if toBelow < toAbove then some below
    else if toAbove < toBelow then some (below + 1)
    else if below % 2 = 0 then some below else some (below + 1)

/-! ## 3. The shortest decimal -/

/-- A positive decimal: the digits as a number, and the power of ten of its last digit. -/
structure Digits where
  digits : Nat
  power : Int
  deriving DecidableEq, Repr

/-- The number of decimal digits. -/
def digitCount (n : Nat) : Nat := (Nat.toDigits 10 n).length

/-- The power of ten of the first digit of the double. -/
def Binary.leadingPower (b : Binary) : Int :=
  let gap := Nat.pow 2 b.exponent.toNat
  let fractionBits := (-b.exponent).toNat
  let units := Nat.pow 2 fractionBits
  let whole := b.mantissa * gap / units
  if whole ≠ 0 then (digitCount whole : Int) - 1
  else (digitCount (b.mantissa * Nat.pow 10 fractionBits / units) : Int) - 1 - fractionBits

/-- Looks for the shortest decimal from the coarsest grid on; each round adds a digit. -/
def Binary.search (b : Binary) (leading : Int) : (rounds : Nat) → (count : Nat) → Option Digits
  | 0, _ => none
  | rounds + 1, count =>
    let power := leading - (count : Int) + 1
    match b.nearestOn? power with
    | some n => some ⟨n, power⟩
    | none => b.search leading rounds (count + 1)

/-- The number without the zeros at its end, the power of ten raised for each. -/
def Digits.stripZeros (fuel : Nat) (d : Digits) : Digits :=
  match fuel with
  | 0 => d
  | fuel + 1 =>
    if d.digits % 10 = 0 ∧ d.digits ≠ 0 then
      Digits.stripZeros fuel ⟨d.digits / 10, d.power + 1⟩
    else d

/-- The shortest decimal that reads back as the double. Seventeen digits always suffice, and the
grid one power above the first digit is tried first, for a double just below a power of ten. -/
def Binary.shortest (b : Binary) : Digits :=
  ((b.search b.leadingPower 19 0).getD ⟨0, 0⟩).stripZeros 20

end Decimal
end CommitStore
