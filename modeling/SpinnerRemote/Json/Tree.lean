import SpinnerRemote.Binary.Arithmetic
import SpinnerRemote.Decimal.Numeral

/-!
JSON text as a tree of which nothing is interpreted yet.

Numbers keep their digits and strings their escapes, because a reader that skips a member skips it
unread: a number out of range or half of a surrogate pair is a fault only where the value is wanted.
`NumberText.value?` and `StringText.value?` interpret the leaves.
-/
namespace SpinnerRemote.Json

/-- The digits of a number: whole part, the part behind the point, and the exponent's sign and digits. -/
structure NumberText where
  negative : Bool
  whole : List Char
  fraction : Option (List Char)
  exponent : Option (Bool × List Char)
  deriving DecidableEq, Repr

inductive Piece where
  | plain (c : Char)
  | code (unit : Nat)
  deriving DecidableEq, Repr

abbrev StringText := List Piece

/-- JSON text as written. -/
inductive Tree where
  | null
  | bool (value : Bool)
  | number (text : NumberText)
  | string (text : StringText)
  | array (items : List Tree)
  | object (members : List (StringText × Tree))

inductive Number where
  | int (value : Int)
  | single (value : Single)
  | double (value : Double)
  deriving DecidableEq, Repr

/-- Numbers of one kind are equal by value; an integer is no binary number of equal value. -/
def Number.sameAs : Number → Number → Bool
  | .int a, .int b => a == b
  | .single a, .single b => a.numEq b
  | .double a, .double b => a.numEq b
  | _, _ => false

namespace NumberText

def wordLimit : Nat := 0xFFFFFFFFFFFFFFFF

def signedLimit : Nat := 0x8000000000000000

/-- Appends digits to a significand while it fits a word; gives the count of those appended too. -/
def absorb (significand : Nat) : List Char → Nat × Nat
  | [] => (significand, 0)
  | digit :: rest =>
    let next := 10 * significand + (digit.toNat - '0'.toNat)
    if next ≤ wordLimit then ((absorb next rest).1, (absorb next rest).2 + 1) else (significand, 0)

def shrink (x : Double) (exponent : Nat) : Double :=
  if exponent ≤ 308 then x / Binary.ofDecimal false 1 exponent
  else if x.numEq 0 then x
  else shrink (x / Binary.ofDecimal false 1 308) (exponent - 308)
termination_by exponent

def scale? (significand : Nat) (exponent : Int) : Option Double :=
  let x : Double := Binary.ofNat significand
  match exponent with
  | .negSucc e => some (shrink x (e + 1))
  | .ofNat e =>
    if significand = 0 then some x
    else if 308 < e then none
    else
      let product := x * Binary.ofDecimal false 1 e
      if product.isFinite then some product else none

/--
The binary number of a numeral: digits beyond the word are dropped, those of the whole part with their
places.
-/
def double? (text : NumberText) : Option Double :=
  let (whole, taken) := absorb 0 text.whole
  let (significand, places) := absorb whole (text.fraction.getD [])
  let exponent : Int :=
    match text.exponent with
    | none => 0
    | some (negative, digits) =>
      if negative then -(Numeral.value digits : Int) else Numeral.value digits
  (scale? significand ((text.whole.length - taken : Nat) - (places : Int) + exponent)).map fun x =>
    if text.negative then -x else x

/--
A numeral without point and exponent that fits a word is an integer, the negative zero and what lies
below the least 64 bit integer apart. Everything else is a binary number.
-/
def value? (text : NumberText) : Option Number :=
  let magnitude := Numeral.value text.whole
  if text.fraction.isNone ∧ text.exponent.isNone ∧ magnitude ≤ wordLimit then
    if text.negative then
      if magnitude = 0 ∨ signedLimit < magnitude then some (.double (-(Binary.ofNat magnitude)))
      else some (.int (-(magnitude : Int)))
    else some (.int magnitude)
  else text.double?.map .double

end NumberText

namespace StringText

def isHigh (unit : Nat) : Bool := 0xD800 ≤ unit && unit ≤ 0xDBFF

def isLow (unit : Nat) : Bool := 0xDC00 ≤ unit && unit ≤ 0xDFFF

def characters? : StringText → Option (List Char)
  | [] => some []
  | .plain c :: rest => (characters? rest).map (c :: ·)
  | .code unit :: rest =>
    if isLow unit then none
    else if isHigh unit then
      match rest with
      | .code low :: rest =>
        if isLow low then
          (characters? rest).map
            (Char.ofNat (0x10000 + (unit - 0xD800) * 0x400 + (low - 0xDC00)) :: ·)
        else none
      | _ => none
    else (characters? rest).map (Char.ofNat unit :: ·)

def value? (text : StringText) : Option String := (characters? text).map String.ofList

end StringText
end SpinnerRemote.Json
