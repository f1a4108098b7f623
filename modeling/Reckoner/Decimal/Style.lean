import Reckoner.Decimal.Shortest

/-! How a double is written. A `Style` holds the decisions of one format: where positional notation
ends, whether an integer keeps a point, how an exponent is signed, and the names of the values that
are no numbers. All formats write the shortest digits that read back. -/

namespace Reckoner.Decimal

/-- The decisions of a number format. -/
structure Style where
  tie : Tie
  /-- Whether a number whose first digit stands for this power of ten is written without an
  exponent. -/
  positional : Int → Bool
  /-- Whether a positional integer ends with a point and a zero. -/
  pointZero : Bool
  /-- What stands before a positive exponent. -/
  exponentPlus : String
  nan : String
  infinity : String
  negativeInfinity : String

def digitsOf (n : Nat) : List Char := Nat.toDigits 10 n

/-- The digits `ds` with the point after the first `k` of them; where digits are missing, zeros
stand in. -/
def positionalDigits (style : Style) (ds : List Char) (k : Int) : List Char :=
  if k ≤ 0 then ['0', '.'] ++ List.replicate (-k).toNat '0' ++ ds
  else if (ds.length : Int) ≤ k then
    ds ++ List.replicate (k.toNat - ds.length) '0' ++ (if style.pointZero then ['.', '0'] else [])
  else ds.take k.toNat ++ ['.'] ++ ds.drop k.toNat

/-- The digits `ds` with the point after the first, then the exponent `e`. -/
def exponentDigits (style : Style) (ds : List Char) (e : Int) : List Char :=
  let point := if ds.length ≤ 1 then ds else ds.take 1 ++ ['.'] ++ ds.drop 1
  let sign := if e < 0 then ['-'] else style.exponentPlus.toList
  point ++ ['e'] ++ sign ++ digitsOf e.natAbs

/-- A positive decimal in the given style. -/
def Style.scaled (style : Style) (x : Scaled) : List Char :=
  let ds := digitsOf x.digits
  let first : Int := x.exponent + ds.length - 1
  if style.positional first then positionalDigits style ds (first + 1)
  else exponentDigits style ds first

def signText (negative : Bool) : List Char := if negative then ['-'] else []

/-- The parts of a double in the given style. -/
def Style.parts (style : Style) : Binary64 → List Char
  | .nan => style.nan.toList
  | .infinite negative => if negative then style.negativeInfinity.toList else style.infinity.toList
  | .zero negative => signText negative ++ positionalDigits style ['0'] 1
  | .finite negative mantissa exponent narrow =>
    signText negative ++ style.scaled (shortest style.tie mantissa exponent narrow)

def Style.text (style : Style) (x : Float) : String :=
  String.ofList (style.parts (.ofFloat x))

/-- Plain text has no exponents, and integers have no point. -/
def plain : Style where
  tie := .away
  positional _ := true
  pointZero := false
  exponentPlus := ""
  nan := "NaN"
  infinity := "inf"
  negativeInfinity := "-inf"

/-- Records of values keep a point and use exponents from `1e16` and below `1e-4`. -/
def record : Style where
  tie := .away
  positional e := -4 ≤ e && e < 16
  pointZero := true
  exponentPlus := ""
  nan := "NaN"
  infinity := "inf"
  negativeInfinity := "-inf"

/-- JSON text uses exponents from `1e+16` and below `1e-5`, and has no name for what is not a
finite number. -/
def json : Style where
  tie := .toEven
  positional e := -5 ≤ e && e < 16
  pointZero := true
  exponentPlus := "+"
  nan := "null"
  infinity := "null"
  negativeInfinity := "null"

/-- YAML text is as JSON text, without the plus and with names for what is not finite. -/
def yaml : Style where
  tie := .toEven
  positional e := -5 ≤ e && e < 16
  pointZero := true
  exponentPlus := ""
  nan := ".nan"
  infinity := ".inf"
  negativeInfinity := "-.inf"

end Reckoner.Decimal
