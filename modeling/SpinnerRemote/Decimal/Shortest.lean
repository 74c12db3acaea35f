import SpinnerRemote.Binary.Rounding

/-!
The shortest decimal that reads back as a given binary floating point number.

The decimals that round to a number fill an interval, its ends included when the mantissa is even. On the
coarsest grid of powers of ten that has a point in it, the nearer of the number's two neighbours is taken,
and of two equally near ones the even one.
-/
namespace SpinnerRemote

/- Powers of numbers are the core library's, whatever else is in scope. -/
attribute [local instance(high)] instPowNat

structure Decimal where
  digits : Nat
  exponent : Int
  deriving DecidableEq, Repr

namespace Decimal

/-- The interval of a number in quarters of a unit: the number, its two ends, and whether they belong. -/
structure Interval where
  value : Nat
  low : Nat
  high : Nat
  closed : Bool
  deriving DecidableEq, Repr

/-- Below a power of two the next number lies half as far away, the least exponent apart. -/
def Interval.of (f : Format) (mantissa exponent : Nat) : Interval :=
  let belowHalf := if mantissa = 2 ^ (f.precision - 1) ∧ exponent ≠ 0 then 1 else 2
  { value := 4 * mantissa * 2 ^ exponent
    low := (4 * mantissa - belowHalf) * 2 ^ exponent
    high := (4 * mantissa + 2) * 2 ^ exponent
    closed := mantissa % 2 == 0 }

def Interval.contains (i : Interval) (num den : Nat) : Bool :=
  if i.closed then i.low * den ≤ num && num ≤ i.high * den
  else i.low * den < num && num < i.high * den

def Interval.onGrid (i : Interval) (quarters : Nat) (exponent : Int) : Option Nat :=
  let up := 10 ^ exponent.toNat
  let down := 10 ^ (-exponent).toNat
  let step := quarters * up
  let below := i.value * down / step
  let inside (digits : Nat) : Bool := i.contains (digits * step) down
  match inside below, inside (below + 1) with
  | true, true =>
    let twice := 2 * i.value * down
    let middle := (2 * below + 1) * step
    if twice < middle then some below
    else if middle < twice then some (below + 1)
    else some (below + below % 2)
  | true, false => some below
  | false, true => some (below + 1)
  | false, false => none

def Interval.search (i : Interval) (quarters : Nat) : Nat → Int → Decimal
  | 0, exponent => ⟨0, exponent⟩
  | grids + 1, exponent =>
    match i.onGrid quarters exponent with
    | some digits => ⟨digits, exponent⟩
    | none => i.search quarters grids (exponent - 1)

/--
The shortest decimal of a number other than zero. The search starts above its leading digit, and ends on
the grid `10 ^ -unitExponent` at the latest, which holds the number itself.
-/
def shortest (f : Format) (mantissa exponent : Nat) : Decimal :=
  let quarters := 4 * 2 ^ f.unitExponent
  let i := Interval.of f mantissa exponent
  let start := (i.value / quarters).log2 / 3 + 1
  i.search quarters (start + f.unitExponent + 1) start

end Decimal
end SpinnerRemote
