import Reckoner.Decimal.Reader

/-! Dates and times in TOML text: a date, a time of day, or both, and then perhaps how far the
clock is ahead of universal time. Only dates of the calendar are read. A minute may have a leap
second, and a second is divided into at most nine decimal places; more are cut off. -/

namespace Reckoner.Toml

/-- A reader of values of a type: it takes a part from the beginning of a text and gives the
rest. -/
abbrev Reader (α : Type) : Type := List Char → Option (α × List Char)

/-- A day of the calendar. -/
structure Date where
  year : Nat
  month : Nat
  day : Nat
  deriving DecidableEq

structure Time where
  hour : Nat
  minute : Nat
  second : Nat
  nanosecond : Nat
  deriving DecidableEq

/-- How a clock is set. -/
inductive Offset where
  /-- To universal time. -/
  | universal
  /-- Ahead of universal time by a number of minutes, or behind it if that is negative. -/
  | ahead (minutes : Int)
  deriving DecidableEq

inductive Moment where
  | date (d : Date)
  | time (t : Time)
  | both (d : Date) (t : Time) (offset : Option Offset)
  deriving DecidableEq

/-! ### Written forms -/

/-- The digits of `n`, after zeros that fill up to `width` digits. -/
def padded (width n : Nat) : List Char :=
  let ds := Nat.toDigits 10 n
  List.replicate (width - ds.length) '0' ++ ds

/-- A date, from the year to the day. -/
def Date.chars (d : Date) : List Char :=
  padded 4 d.year ++ ['-'] ++ padded 2 d.month ++ ['-'] ++ padded 2 d.day

/-- The decimal places of a second, without zeros at the end. -/
def fractionChars (nanosecond : Nat) : List Char :=
  if nanosecond = 0 then []
  else '.' :: ((padded 9 nanosecond).reverse.dropWhile (· = '0')).reverse

/-- A time of day, from the hour to the parts of a second. -/
def Time.chars (t : Time) : List Char :=
  padded 2 t.hour ++ [':'] ++ padded 2 t.minute ++ [':'] ++ padded 2 t.second ++
    fractionChars t.nanosecond

/-- An offset, as a letter or in hours and minutes. -/
def Offset.chars : Offset → List Char
  | universal => ['Z']
  | ahead minutes =>
    let n := minutes.natAbs
    (if minutes < 0 then '-' else '+') :: padded 2 (n / 60) ++ [':'] ++ padded 2 (n % 60)

/-- A date or a time in the form in which all writers agree. -/
def Moment.text : Moment → String
  | date d => String.ofList d.chars
  | time t => String.ofList t.chars
  | both d t offset =>
    String.ofList (d.chars ++ ['T'] ++ t.chars ++ (offset.map Offset.chars).getD [])

/-! ### Readers -/

/-- The number that exactly `width` digits write, which has to lie between `low` and `high`. -/
def fixedDigits (width low high : Nat) (cs : List Char) : Option (Nat × List Char) :=
  let ds := cs.take width
  let n := Decimal.digitsValue ds
  if ds.length = width && ds.all Char.isDigit && low ≤ n && n ≤ high then some (n, cs.drop width)
  else none

/-- The text after the character `c`. -/
def afterChar (c : Char) : List Char → Option (List Char)
  | [] => none
  | d :: cs => if d = c then some cs else none

/-- Whether a year has a day more. -/
def isLeapYear (year : Nat) : Bool := year % 4 = 0 && (year % 100 ≠ 0 || year % 400 = 0)

/-- The number of days of a month. -/
def daysInMonth (year month : Nat) : Nat :=
  if month = 2 then if isLeapYear year then 29 else 28
  else if month ∈ [4, 6, 9, 11] then 30
  else 31

def readDate (cs : List Char) : Option (Date × List Char) := do
  let (year, cs) ← fixedDigits 4 0 9999 cs
  let (month, cs) ← fixedDigits 2 1 12 (← afterChar '-' cs)
  let (day, cs) ← fixedDigits 2 1 (daysInMonth year month) (← afterChar '-' cs)
  return (⟨year, month, day⟩, cs)

/-- The decimal places of a second, if there are any, in billionths. -/
def readFraction (cs : List Char) : Nat × List Char :=
  match cs with
  | '.' :: rest =>
    let ds := rest.takeWhile Char.isDigit
    if ds.isEmpty then (0, cs)
    else
      let kept := ds.take 9
      (Decimal.digitsValue kept * Nat.pow 10 (9 - kept.length), rest.dropWhile Char.isDigit)
  | _ => (0, cs)

def readTime (cs : List Char) : Option (Time × List Char) := do
  let (hour, cs) ← fixedDigits 2 0 23 cs
  let (minute, cs) ← fixedDigits 2 0 59 (← afterChar ':' cs)
  let (second, cs) ← fixedDigits 2 0 60 (← afterChar ':' cs)
  let (nanosecond, cs) := readFraction cs
  return (⟨hour, minute, second, nanosecond⟩, cs)

def readOffset (cs : List Char) : Option (Offset × List Char) :=
  match cs with
  | [] => none
  | c :: cs =>
    if c = 'Z' || c = 'z' then some (.universal, cs)
    else if c = '+' || c = '-' then do
      let (hours, cs) ← fixedDigits 2 0 23 cs
      let (minutes, cs) ← fixedDigits 2 0 59 (← afterChar ':' cs)
      let n : Int := (60 * hours + minutes : Nat)
      return (.ahead (if c = '-' then -n else n), cs)
    else none

/-- A time of day behind the letter or the space that stands between it and a date. -/
def readTimeAfterDate (cs : List Char) : Option (Time × List Char) :=
  match cs with
  | [] => none
  | c :: cs => if c = 'T' || c = 't' || c = ' ' then readTime cs else none

def readMoment (cs : List Char) : Option (Moment × List Char) :=
  match readDate cs with
  | none => (readTime cs).map fun (t, rest) => (.time t, rest)
  | some (d, cs) =>
    match readTimeAfterDate cs with
    | none => some (.date d, cs)
    | some (t, cs) =>
      match readOffset cs with
      | none => some (.both d t none, cs)
      | some (offset, cs) => some (.both d t (some offset), cs)

end Reckoner.Toml
