import SpinnerRemote.Binary.Basic

/-!
Rounding to the nearest number of a format, a half going to the even neighbour, and the ways into and
out of a format: naturals, decimals, another format, natural numbers with a bound.

`Binary.round` is the one place where a number is rounded. It takes the exact magnitude as a quotient of
naturals, in units of the format.
-/
namespace SpinnerRemote

/- Powers of numbers are the core library's, whatever else is in scope. -/
attribute [local instance(high)] instPowNat

/-- The quotient rounded to the nearest natural number, a half going to the even one. -/
def roundDiv (num den : Nat) : Nat :=
  let quotient := num / den
  let rest := num % den
  if 2 * rest < den then quotient
  else if den < 2 * rest then quotient + 1
  else quotient + quotient % 2

def roundDivUp (num den : Nat) : Nat := (2 * num + den) / (2 * den)

namespace Binary

variable {f : Format}

/--
The number nearest to `num / den` units: the exponent is the least at which the quotient fits the
mantissa, and a mantissa that rounds up to the next power of two moves to the next exponent.
-/
def round (negative : Bool) (num den : Nat) : Binary f :=
  let exponent := (num / den).log2 + 1 - f.precision
  let mantissa := roundDiv num (den * 2 ^ exponent)
  if mantissa = 2 ^ f.precision then
    make negative (2 ^ (f.precision - 1)) (exponent + 1)
  else
    make negative mantissa exponent

protected def ofNat (n : Nat) : Binary f := round false (n * 2 ^ f.unitExponent) 1

protected def ofInt (i : Int) : Binary f := round (i < 0) (i.natAbs * 2 ^ f.unitExponent) 1

/--
The number nearest to `digits * 10 ^ exponent`. As `10 ^ e` is at least `2 ^ (3 * e)`, an exponent far
outside the format is settled without raising ten to it: one as long as the text of a numeral may be.
-/
def ofDecimal (negative : Bool) (digits : Nat) (exponent : Int) : Binary f :=
  match exponent with
  | .ofNat e =>
    if digits = 0 then zero negative
    else if f.precision + f.topExponent ≤ digits.log2 + 3 * e + f.unitExponent then .inf negative
    else round negative (digits * 10 ^ e * 2 ^ f.unitExponent) 1
  | .negSucc e =>
    if digits.log2 + f.unitExponent + 2 ≤ 3 * (e + 1) then zero negative
    else round negative (digits * 2 ^ f.unitExponent) (10 ^ (e + 1))

instance (n : Nat) : OfNat (Binary f) n := ⟨Binary.ofNat n⟩

instance : OfScientific (Binary f) where
  ofScientific digits negativeExponent exponent :=
    ofDecimal false digits (if negativeExponent then -(exponent : Int) else exponent)

def convert (g : Format) : Binary f → Binary g
  | .nan => .nan
  | .inf negative => .inf negative
  | .finite negative mantissa exponent _ =>
    round negative (mantissa * 2 ^ exponent * 2 ^ g.unitExponent) (2 ^ f.unitExponent)

/-- The nearest natural number, a half going up, within `0` and `bound`; NaN gives `0`. -/
def nearestNat (bound : Nat) : Binary f → Nat
  | .nan => 0
  | .inf negative => if negative then 0 else bound
  | .finite negative mantissa exponent _ =>
    if negative then 0 else min bound (roundDivUp (mantissa * 2 ^ exponent) (2 ^ f.unitExponent))

def floorNat (bound : Nat) : Binary f → Nat
  | .nan => 0
  | .inf negative => if negative then 0 else bound
  | .finite negative mantissa exponent _ =>
    if negative then 0 else min bound (mantissa * 2 ^ exponent / 2 ^ f.unitExponent)

end Binary
end SpinnerRemote
