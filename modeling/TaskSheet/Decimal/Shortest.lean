import TaskSheet.Text.Basic

/-!
# The shortest decimal of a binary fraction

A positive double is `significand · 2 ^ exponent`, and every real number between the
midpoints to its two neighbours is read back as that double. Among the decimals in
this interval the ones with the fewest digits lie on the coarsest grid of powers of
ten that has a point there, and of those the nearest is chosen, with an even last
digit where two are equally near. All arithmetic is exact.
-/

namespace TaskSheet.Decimal

/-- A number `digits · 10 ^ exponent`. -/
structure Scaled where
  /-- The decimal digits, read as a natural number. -/
  digits : Nat
  /-- The power of ten that they count. -/
  exponent : Int

/-- A positive binary fraction `significand · 2 ^ exponent` together with how far its
lower neighbour is away. -/
structure Binary where
  /-- The binary digits, read as a natural number. -/
  significand : Nat
  /-- The power of two that they count. -/
  exponent : Int
  /-- Whether the lower neighbour is only half as far away as the upper one. -/
  narrowBelow : Bool

namespace Binary

/-- The bit before the point of a double, `2 ^ 52`, which is not stored. -/
def leadingBit : Nat := 0x10000000000000

/-- The number of different exponents of a double. -/
def exponentCount : Nat := 2048

/-- The finite double with these bits, without its sign. Zero has a zero significand. -/
def ofBits (bits : UInt64) : Binary :=
  let fraction := bits.toNat % leadingBit
  let field := bits.toNat / leadingBit % exponentCount
  if field = 0 then ⟨fraction, -1074, false⟩
  else ⟨leadingBit + fraction, Int.ofNat field - 1075, fraction == 0 && decide (1 < field)⟩

/-- A power of a number, which is one where the exponent is negative. -/
def power (base : Nat) (exponent : Int) : Nat := base.pow exponent.toNat

/-- Numerator and denominator of the quotient of `quarters · 2 ^ (exponent - 2)` by
`10 ^ place`, where `exponent` is that of the binary fraction. -/
def quotient (b : Binary) (quarters : Nat) (place : Int) : Nat × Nat :=
  (quarters * power 2 (b.exponent - 2) * power 10 (-place),
    power 2 (2 - b.exponent) * power 10 place)

/-- Whether `digits · 10 ^ place` lies between the two midpoints. A midpoint itself
counts exactly when the significand is even. -/
def reads (b : Binary) (digits : Nat) (place : Int) : Bool :=
  let low := b.quotient (4 * b.significand - if b.narrowBelow then 1 else 2) place
  let high := b.quotient (4 * b.significand + 2) place
  if b.significand % 2 = 0 then low.1 ≤ digits * low.2 && digits * high.2 ≤ high.1
  else low.1 < digits * low.2 && digits * high.2 < high.1

/-- The nearest multiple of `10 ^ place` that reads back as the binary fraction, if a
multiple does. -/
def nearest? (b : Binary) (place : Int) : Option Scaled :=
  let value := b.quotient (4 * b.significand) place
  let below := value.1 / value.2
  let above := below + 1
  match b.reads below place, b.reads above place with
  | false, false => none
  | true, false => some ⟨below, place⟩
  | false, true => some ⟨above, place⟩
  | true, true =>
    let twiceOver := 2 * (value.1 % value.2)
    if twiceOver < value.2 || (twiceOver = value.2 && below % 2 = 0) then some ⟨below, place⟩
    else some ⟨above, place⟩

/-- The places of decimal digits that a finite double can need, coarsest first. -/
def places : List Int := (List.range 660).map fun i => 310 - Int.ofNat i

/-- The decimal with the fewest digits that reads back as the binary fraction. -/
def shortest (b : Binary) : Scaled :=
  (places.findSome? b.nearest?).getD ⟨b.significand, 0⟩

end Binary

end TaskSheet.Decimal
