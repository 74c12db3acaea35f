import SpinnerRemote.Binary.Basic

/-!
The interchange bit pattern of a binary floating point number: sign, exponent field, fraction. NaN is
written as the quiet pattern with an empty payload, and every NaN pattern is read as NaN.
-/
namespace SpinnerRemote.Binary

/- Powers of numbers are the core library's, whatever else is in scope. -/
attribute [local instance(high)] instPowNat

variable {f : Format}

def fieldWeight (f : Format) : Nat := 2 ^ (f.precision - 1)

def topField (f : Format) : Nat := f.topExponent + 2

def signWeight (f : Format) : Nat := (topField f + 1) * fieldWeight f

def toBits : Binary f → Nat
  | .nan => topField f * fieldWeight f + fieldWeight f / 2
  | .inf negative => negative.toNat * signWeight f + topField f * fieldWeight f
  | .finite negative mantissa exponent _ =>
    negative.toNat * signWeight f + exponent * fieldWeight f + mantissa

def ofBits (bits : Nat) : Binary f :=
  let negative := bits / signWeight f % 2 == 1
  let field := bits % signWeight f / fieldWeight f
  let fraction := bits % fieldWeight f
  if field = topField f then (if fraction = 0 then .inf negative else .nan)
  else if field = 0 then make negative fraction 0
  else make negative (fieldWeight f + fraction) (field - 1)

end SpinnerRemote.Binary
