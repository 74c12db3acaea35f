import SpinnerRemote.Binary.Rounding

/-!
Numerals in text: natural numbers up to a bound, and decimal numbers with an optional point and exponent.
Digits are the ten ASCII digits.
-/
namespace SpinnerRemote.Numeral

def value (digits : List Char) : Nat :=
  digits.foldl (fun n digit => 10 * n + (digit.toNat - '0'.toNat)) 0

def isNatural (text : List Char) : Bool := !text.isEmpty && text.all Char.isDigit

def natural? (bound : Nat) (text : List Char) : Option Nat :=
  let digits := match text with
    | '+' :: rest => rest
    | _ => text
  if isNatural digits ∧ value digits ≤ bound then some (value digits) else none

def splitSign : List Char → Bool × List Char
  | '-' :: rest => (true, rest)
  | '+' :: rest => (false, rest)
  | text => (false, text)

def splitDigits (text : List Char) : List Char × List Char :=
  (text.takeWhile Char.isDigit, text.dropWhile Char.isDigit)

def splitFraction : List Char → List Char × List Char
  | '.' :: rest => splitDigits rest
  | text => ([], text)

def exponent? : List Char → Option Int
  | [] => some 0
  | mark :: rest =>
    let (negative, digits) := splitSign rest
    if (mark = 'e' ∨ mark = 'E') ∧ isNatural digits then
      some (if negative then -(value digits : Int) else value digits)
    else none

/--
The number nearest to a decimal number: an optional sign, digits with at most one point among or around
them, an optional exponent. At least one digit has to stand before the exponent.
-/
def decimal? {f : Format} (text : List Char) : Option (Binary f) :=
  let (negative, text) := splitSign text
  let (whole, text) := splitDigits text
  let (fraction, text) := splitFraction text
  if (whole ++ fraction).isEmpty then none
  else (exponent? text).map fun exponent =>
    Binary.ofDecimal negative (value (whole ++ fraction)) (exponent - fraction.length)

end SpinnerRemote.Numeral
