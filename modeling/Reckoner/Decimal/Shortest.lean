import Reckoner.Decimal.Binary64

/-! The shortest decimal that reads back as a given double. The reals that round to
`mantissa * 2 ^ exponent` form an interval around it, whose ends belong to it when the mantissa is
even. Of the grids of multiples of a power of ten, `shortest` takes the coarsest with a point in
the interval, and of its points the nearest to the double. -/

namespace Reckoner.Decimal

/-- Which of two equally near decimals is taken. -/
inductive Tie where
  /-- The one of larger magnitude. -/
  | away
  /-- The one with an even last digit. -/
  | toEven
  deriving DecidableEq

/-- `digits * 10 ^ exponent`. -/
structure Scaled where
  digits : Nat
  exponent : Int
  deriving DecidableEq

/-- The double `mantissa * 2 ^ exponent` and the interval around it, all in units of a quarter of
`2 ^ exponent`. -/
structure Interval where
  value : Nat
  lower : Nat
  upper : Nat
  /-- Whether the ends belong to the interval. -/
  closed : Bool
  /-- The exponent of the unit. -/
  exponent : Int

/-- The interval of the reals that round to `mantissa * 2 ^ exponent`. -/
def Interval.around (mantissa : Nat) (exponent : Int) (narrow : Bool) : Interval where
  value := 4 * mantissa
  lower := 4 * mantissa - (if narrow then 1 else 2)
  upper := 4 * mantissa + 2
  closed := mantissa % 2 = 0
  exponent := exponent - 2

/-- What `n` units are multiplied by to be compared with multiples of `10 ^ e`. -/
def Interval.scale (i : Interval) (e : Int) : Nat :=
  Nat.pow 10 (-e).toNat * Nat.pow 2 i.exponent.toNat

/-- `10 ^ e` on the scale of `Interval.scale`. -/
def Interval.step (i : Interval) (e : Int) : Nat :=
  Nat.pow 10 e.toNat * Nat.pow 2 (-i.exponent).toNat

/-- Whether `k * 10 ^ e` lies in the interval. -/
def Interval.contains (i : Interval) (e : Int) (k : Nat) : Bool :=
  let x := k * i.step e
  let lower := i.lower * i.scale e
  let upper := i.upper * i.scale e
  if i.closed then lower ≤ x && x ≤ upper else lower < x && x < upper

/-- The multiple of `10 ^ e` in the interval that is nearest to its double, if there is one. -/
def Interval.point? (i : Interval) (tie : Tie) (e : Int) : Option Nat :=
  let value := i.value * i.scale e
  let step := i.step e
  let below := value / step
  match i.contains e below, i.contains e (below + 1) with
  | false, false => none
  | true, false => some below
  | false, true => some (below + 1)
  | true, true =>
    let past := value - below * step
    if 2 * past < step then some below
    else if step < 2 * past then some (below + 1)
    else match tie with
      | .away => some (below + 1)
      | .toEven => some (if below % 2 = 0 then below else below + 1)

/-- The first grid from `10 ^ e` on downwards, among `n`, that has a point in the interval. After
them the next grid's point below the double stands in. -/
def Interval.search (i : Interval) (tie : Tie) (e : Int) : Nat → Scaled
  | 0 => ⟨i.value * i.scale e / i.step e, e⟩
  | n + 1 =>
    match i.point? tie e with
    | some k => ⟨k, e⟩
    | none => i.search tie (e - 1) n

/-- An exponent of ten whose power exceeds the interval; `30103 / 100000` is close above the
logarithm of two, `30102 / 100000` close below. -/
def Interval.coarsest (i : Interval) : Int :=
  let bits : Int := i.upper.log2 + 1 + i.exponent
  if 0 ≤ bits then bits * 30103 / 100000 + 1 else -(-bits * 30102 / 100000) + 1

/-- The shortest decimal that reads back as `mantissa * 2 ^ exponent`. Seventeen digits always
suffice, so the search ends within twenty grids of the coarsest. -/
def shortest (tie : Tie) (mantissa : Nat) (exponent : Int) (narrow : Bool) : Scaled :=
  let i := Interval.around mantissa exponent narrow
  i.search tie i.coarsest 24

end Reckoner.Decimal
