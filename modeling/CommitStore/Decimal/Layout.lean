import CommitStore.Decimal.Shortest
import CommitStore.Text.Digits
set_option autoImplicit false

/-!
# The text of a double

`Layout` holds the decisions that are left once the digits of a double are known: up to which powers
of ten it is written positionally, and how an exponent looks. `plain` is the layout of the canonical
encoding.
-/

namespace CommitStore
namespace Decimal

/-- How a double is written. -/
structure Layout where
  /-- The smallest power of ten of a first digit that is written positionally. -/
  positionalFrom : Int
  /-- The first power of ten of a first digit that is no longer written positionally. -/
  positionalBelow : Int
  /-- The least number of digits of an exponent. -/
  exponentDigits : Nat

/-- From one ten-thousandth to below ten to the sixteenth positionally, else with an exponent of at
least two digits. -/
def plain : Layout := ⟨-4, 16, 2⟩

/-- The exponent mark, the sign and the digits of an exponent. -/
def Layout.exponentText (l : Layout) (e : Int) : List Char :=
  'e' :: (if e < 0 then '-' else '+') :: Text.padded l.exponentDigits e.natAbs

/-- A positive decimal in this layout. -/
def Layout.digitsText (l : Layout) (d : Digits) : List Char :=
  let ds := Nat.toDigits 10 d.digits
  let leading := d.power + (ds.length : Int) - 1
  if l.positionalFrom ≤ leading ∧ leading < l.positionalBelow then
    -- The point comes behind all digits, between two of them, or before all of them.
    if 0 ≤ d.power then ds ++ List.replicate d.power.toNat '0' ++ ['.', '0']
    else if 0 ≤ leading then ds.take (leading.toNat + 1) ++ '.' :: ds.drop (leading.toNat + 1)
    else '0' :: '.' :: List.replicate (-leading).toNat.pred '0' ++ ds
  else
    match ds with
    | [] => []
    | first :: rest =>
      (if rest.isEmpty then [first] else first :: '.' :: rest) ++ l.exponentText leading

/-- A double in this layout; the zeros keep their sign. -/
def Layout.text (l : Layout) (x : Float) : List Char :=
  let bits := x.toBits
  let negative := 2048 ≤ bits.toNat / fieldUnit
  let magnitude : List Char :=
    match Binary.ofBits? bits with
    | some b => l.digitsText b.shortest
    | none => if exponentField bits = 0 then ['0', '.', '0'] else "Infinity".toList
  if negative then '-' :: magnitude else magnitude

end Decimal
end CommitStore
