/-!
# From decimal notation to doubles

A decimal number is turned into a double in two steps. Its digits are gathered into a
significand of at most sixty-four bits; then the significand, rounded to a double, is
multiplied or divided once by a power of ten. Digits that no longer fit are counted as
zeros. The result is finite or there is none.
-/

namespace TaskSheet.Decimal

/-- One more than the greatest significand. -/
def significandBound : Nat := UInt64.size

/-- Appends digits to a significand while it fits into sixty-four bits. Returns the
significand and the number of digits that it took in, counted on from `taken`. -/
def gather (significand taken : Nat) : List Nat → Nat × Nat
  | [] => (significand, taken)
  | digit :: digits =>
    let next := significand * 10 + digit
    if next < significandBound then gather next (taken + 1) digits else (significand, taken)

/-- The greatest power of ten that is a finite double. -/
def greatestPower : Nat := 308

/-- The double nearest to a power of ten. -/
def powerOfTen (exponent : Nat) : Float := Float.ofScientific 1 false exponent

/-- A double divided by a power of ten, in several steps where one power does not reach. -/
def scaleDown (value : Float) (exponent : Nat) : Float :=
  if exponent ≤ greatestPower then value / powerOfTen exponent
  else if value == 0 then value
  else scaleDown (value / powerOfTen greatestPower) (exponent - greatestPower)
  termination_by exponent
  decreasing_by simp only [greatestPower] at *; omega

/-- A double multiplied by a power of ten, if the product is finite. -/
def scaleUp? (value : Float) (exponent : Nat) : Option Float :=
  if exponent ≤ greatestPower then
    let product := value * powerOfTen exponent
    if product.isInf then none else some product
  else if value == 0 then some value
  else none

/-- The bits of the double for `± significand · 10 ^ exponent`, if it is finite. -/
def toBits? (negative : Bool) (significand : Nat) (exponent : Int) : Option UInt64 :=
  let value := significand.toUInt64.toFloat
  let scaled :=
    if 0 ≤ exponent then scaleUp? value exponent.toNat
    else some (scaleDown value exponent.natAbs)
  scaled.map fun f => (if negative then -f else f).toBits

end TaskSheet.Decimal
