import TaskSheet.Decimal.Shortest

/-!
# Writing doubles

A double is written with its shortest decimal. The value decides between two layouts:
positional with at least one digit after the point, and scientific with a signed
exponent.
-/

namespace TaskSheet.Decimal

/-- The least exponent of the leading digit that is written positionally. -/
def leastPositional : Int := -5

/-- The greatest exponent of the leading digit that is written positionally. -/
def greatestPositional : Int := 15

/-- A point behind the first `whole` digits, with zeros where digits are missing. -/
def positional (digits : Text) (exponent : Int) : Text :=
  if 0 ≤ exponent then
    let whole := exponent.toNat + 1
    let padded := digits ++ List.replicate (whole - digits.length) '0'
    let fraction := padded.drop whole
    padded.take whole ++ '.' :: (if fraction.isEmpty then ['0'] else fraction)
  else
    '0' :: '.' :: List.replicate ((-exponent).toNat - 1) '0' ++ digits

/-- One digit before the point, and the exponent of that digit with its sign. -/
def scientific (digits : Text) (exponent : Int) : Text :=
  let mantissa := match digits with
    | first :: second :: more => first :: '.' :: second :: more
    | short => short
  let sign := if exponent < 0 then '-' else '+'
  mantissa ++ 'e' :: sign :: Text.ofNat exponent.natAbs

/-- A decimal in the layout that the exponent of its leading digit asks for. -/
def Scaled.render (s : Scaled) : Text :=
  let digits := Text.ofNat s.digits
  let exponent := s.exponent + digits.length - 1
  if leastPositional ≤ exponent && exponent ≤ greatestPositional then
    positional digits exponent
  else scientific digits exponent

/-- The bit that holds the sign of a double, `2 ^ 63`. -/
def signBit : Nat := 0x8000000000000000

/-- The text of the finite double with these bits. Both zeros keep their sign. -/
def render (bits : UInt64) : Text :=
  let binary := Binary.ofBits bits
  let magnitude :=
    if binary.significand = 0 then positional ['0'] 0 else binary.shortest.render
  if bits.toNat < signBit then magnitude else '-' :: magnitude

end TaskSheet.Decimal
