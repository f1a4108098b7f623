import Reckoner.Decimal.Binary64

/-! Numbers read from text. A number is a sign, digits with at most one point among or around them,
and an exponent; the sign and the exponent may be missing, and so may the digits on one side of the
point. Infinity and the value that is not a number are read by name, in letters of any case. The
result is the double nearest to the decimal. -/

namespace Reckoner.Decimal

def digitValue (c : Char) : Nat := c.toNat - '0'.toNat

/-- The number that the decimal digits `ds` write. -/
def digitsValue (ds : List Char) : Nat := ds.foldl (fun n c => 10 * n + digitValue c) 0

/-- The longest prefix of digits, and what follows. -/
def spanDigits (cs : List Char) : List Char × List Char := cs.span Char.isDigit

/-- An optional sign, and what follows. -/
def readSign : List Char → Bool × List Char
  | '-' :: cs => (true, cs)
  | '+' :: cs => (false, cs)
  | cs => (false, cs)

/-- A decimal before it is rounded: the digits before and after the point, and the exponent. -/
structure Literal where
  integer : List Char
  fraction : List Char
  exponent : Int

/-- An exponent at the end of a number, or nothing, which is the exponent zero. -/
def readExponent : List Char → Option Int
  | [] => some 0
  | c :: cs =>
    if c = 'e' || c = 'E' then
      let (negative, cs) := readSign cs
      let (ds, rest) := spanDigits cs
      if ds.isEmpty || !rest.isEmpty then none
      else some (if negative then -digitsValue ds else digitsValue ds)
    else none

/-- An unsigned decimal. -/
def readLiteral (cs : List Char) : Option Literal :=
  let (integer, rest) := spanDigits cs
  let (fraction, rest) := match rest with
    | '.' :: rest => spanDigits rest
    | rest => ([], rest)
  if integer.isEmpty && fraction.isEmpty then none
  else (readExponent rest).map fun e => ⟨integer, fraction, e⟩

/-- The exponent of ten past which a positive integer is infinite. -/
def overflowExponent : Int := 310

/-- The exponent of ten below which a number rounds to zero. -/
def underflowExponent : Int := -330

/-- The bits of the double nearest to `n * 10 ^ e`, where `n` has at most `width` digits. -/
def scaledBits (n width : Nat) (e : Int) : Nat :=
  if n = 0 then 0
  else if overflowExponent < e then infinityBits
  else if e + width < underflowExponent then 0
  else nearestBits (n * Nat.pow 10 e.toNat) (Nat.pow 10 (-e).toNat)

/-- The bits of the double nearest to a decimal. -/
def Literal.bits (l : Literal) : Nat :=
  let ds := l.integer ++ l.fraction
  scaledBits (digitsValue ds) ds.length (l.exponent - l.fraction.length)

/-- The bits of a quiet value that is not a number. -/
def nanBits : Nat := 0x7ff8 * Nat.pow 2 48

/-- The bits of an unsigned number given by name. -/
def readName (cs : List Char) : Option Nat :=
  let name := String.ofList (cs.map Char.toLower)
  if name = "inf" || name = "infinity" then some infinityBits
  else if name = "nan" then some nanBits
  else none

/-- The number that `cs` writes. -/
def readChars (cs : List Char) : Option Float :=
  let (negative, body) := readSign cs
  let bits := (readName body).orElse fun _ => (readLiteral body).map Literal.bits
  bits.map (ofMagnitude negative)

/-- The number that a text writes. -/
def read (text : String) : Option Float := readChars text.toList

end Reckoner.Decimal
