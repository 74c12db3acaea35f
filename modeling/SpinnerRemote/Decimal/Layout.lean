import SpinnerRemote.Decimal.Shortest

/-!
How a decimal is written out: with a fixed number of places, or as its shortest digits, positionally
within a range of exponents and scientifically outside of it.
-/
namespace SpinnerRemote.Decimal

/- Powers of numbers are the core library's, whatever else is in scope. -/
attribute [local instance(high)] instPowNat

def padded (width n : Nat) : String :=
  let digits := toString n
  String.ofList (List.replicate (width - digits.length) '0') ++ digits

def withPlaces (places n : Nat) : String :=
  if places = 0 then toString n
  else s!"{n / 10 ^ places}." ++ padded places (n % 10 ^ places)

def signText (plus negative : Bool) : String :=
  if negative then "-" else if plus then "+" else ""

/--
A number with a fixed number of places, the exact value rounded once, a half going to the even digit.
NaN carries no sign.
-/
def fixed {f : Format} (places : Nat) (plus : Bool) : Binary f → String
  | .nan => "NaN"
  | .inf negative => signText plus negative ++ "inf"
  | .finite negative mantissa exponent _ =>
    signText plus negative ++
      withPlaces places (roundDiv (mantissa * 2 ^ exponent * 10 ^ places) (2 ^ f.unitExponent))

/-- The exponents of the leading digit for which a number is written positionally. -/
structure Positional where
  least : Int
  greatest : Int
  deriving DecidableEq, Repr

def positional (digits : String) (leading : Int) : String :=
  if leading < 0 then "0." ++ String.ofList (List.replicate (-leading - 1).toNat '0') ++ digits
  else
    let whole := leading.toNat + 1
    if digits.length ≤ whole then
      digits ++ String.ofList (List.replicate (whole - digits.length) '0') ++ ".0"
    else String.ofList (digits.toList.take whole) ++ "." ++ String.ofList (digits.toList.drop whole)

def scientific (digits : String) (leading : Int) : String :=
  let mantissa :=
    match digits.toList with
    | first :: second :: rest => String.ofList (first :: '.' :: second :: rest)
    | _ => digits
  mantissa ++ "e" ++ signText true (leading < 0) ++ toString leading.natAbs

/-- The shortest digits of a finite number that read back as the same one; `none` for the others. -/
def text {f : Format} (range : Positional) : Binary f → Option String
  | .nan => none
  | .inf _ => none
  | .finite negative mantissa exponent _ =>
    if mantissa = 0 then some (signText false negative ++ "0.0")
    else
      let decimal := shortest f mantissa exponent
      let digits := toString decimal.digits
      let leading : Int := decimal.exponent + (digits.length - 1 : Nat)
      some <| signText false negative ++
        if range.least ≤ leading ∧ leading ≤ range.greatest then positional digits leading
        else scientific digits leading

end SpinnerRemote.Decimal
