/-! Binary floating point of 64 bits, taken apart into sign, mantissa and exponent and put together
again. `nearestBits` rounds a positive quotient of natural numbers to the nearest double, a tie to
the even mantissa. -/

namespace Reckoner.Decimal

/-- What the bits of a double say. -/
inductive Binary64 where
  | nan
  | infinite (negative : Bool)
  | zero (negative : Bool)
  /-- `mantissa * 2 ^ exponent`, up to sign. The gap to the double below is half the gap to the
  double above when `narrow` holds. -/
  | finite (negative : Bool) (mantissa : Nat) (exponent : Int) (narrow : Bool)
  deriving DecidableEq

/-- The least exponent of a mantissa. -/
def leastExponent : Int := -1074

/-- The bits of the positive infinity. -/
def infinityBits : Nat := 0x7ff * Nat.pow 2 52

def signBit : Nat := Nat.pow 2 63

/-- The parts of the double with the given bits. -/
def Binary64.ofBits (bits : Nat) : Binary64 :=
  let negative : Bool := bits / signBit % 2 = 1
  let exponent : Nat := bits / Nat.pow 2 52 % Nat.pow 2 11
  let fraction := bits % Nat.pow 2 52
  if exponent = Nat.pow 2 11 - 1 then
    if fraction = 0 then .infinite negative else .nan
  else if exponent = 0 then
    if fraction = 0 then .zero negative else .finite negative fraction leastExponent false
  else
    .finite negative (Nat.pow 2 52 + fraction) (leastExponent + ((exponent - 1 : Nat) : Int))
      (fraction = 0 && 1 < exponent)

def Binary64.ofFloat (x : Float) : Binary64 := .ofBits x.toBits.toNat

/-- `num / den` rounded to a natural number, a tie to the even neighbour. -/
def roundQuotient (num den : Nat) : Nat :=
  let q := num / den
  let r := num % den
  if 2 * r < den then q
  else if den < 2 * r then q + 1
  else if q % 2 = 0 then q else q + 1

/-- The mantissa of `num / den` at exponent `e`, rounded. -/
def mantissaAt (num den : Nat) (e : Int) : Nat :=
  roundQuotient (num * Nat.pow 2 (-e).toNat) (den * Nat.pow 2 e.toNat)

/-- The exponent at which the mantissa of `num / den` has 53 bits, or the least exponent. -/
def mantissaExponent (num den : Nat) : Int :=
  let guess : Int := (num.log2 : Int) - den.log2 - 52
  let e :=
    if num * Nat.pow 2 (-guess).toNat < den * Nat.pow 2 guess.toNat * Nat.pow 2 52 then guess - 1
    else guess
  max e leastExponent

/-- The bits of the double nearest to `num / den`, for positive `num` and `den`. What is too large
is infinite. A mantissa that rounds up to `2 ^ 53` carries into the exponent. -/
def nearestBits (num den : Nat) : Nat :=
  let e := mantissaExponent num den
  min ((e - leastExponent).toNat * Nat.pow 2 52 + mantissaAt num den e) infinityBits

/-- The double with the given sign and bits of its magnitude. -/
def ofMagnitude (negative : Bool) (bits : Nat) : Float :=
  Float.ofBits (UInt64.ofNat (if negative then signBit + bits else bits))

end Reckoner.Decimal
