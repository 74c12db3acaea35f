/-!
Binary floating point numbers of a format.

A finite number is `mantissa * 2 ^ exponent` units with a sign, the unit being the least positive number
of the format. `Format.Canonical` leaves each value one representation apart from the two zeros. NaN has
no payload. Comparison goes through `scaled`, the signed count of units, in which an infinity lies just
beyond every finite number and NaN has no place.
-/
namespace SpinnerRemote

/- Powers of numbers are the core library's, whatever else is in scope. -/
attribute [local instance(high)] instPowNat

/-- The mantissa width in bits, the largest exponent, and the unit `2 ^ -unitExponent`. -/
structure Format where
  precision : Nat
  topExponent : Nat
  unitExponent : Nat
  precision_pos : 0 < precision
  deriving DecidableEq, Repr

namespace Format

def single : Format := ⟨24, 253, 149, by decide⟩

def double : Format := ⟨53, 2045, 1074, by decide⟩

/-- A mantissa that fills its width, or that of a number too small to fill it at the least exponent. -/
def Canonical (f : Format) (mantissa exponent : Nat) : Prop :=
  mantissa < 2 ^ f.precision ∧ exponent ≤ f.topExponent ∧
    (exponent = 0 ∨ 2 ^ (f.precision - 1) ≤ mantissa)

instance (f : Format) (mantissa exponent : Nat) : Decidable (f.Canonical mantissa exponent) := by
  unfold Canonical
  infer_instance

end Format

inductive Binary (f : Format) where
  | nan
  | inf (negative : Bool)
  | finite (negative : Bool) (mantissa exponent : Nat) (canonical : f.Canonical mantissa exponent)
  deriving DecidableEq, Repr

abbrev Single := Binary Format.single

abbrev Double := Binary Format.double

namespace Binary

variable {f : Format}

/-- The number of `mantissa * 2 ^ exponent` units, or an infinity if the format has no such number. -/
def make (negative : Bool) (mantissa exponent : Nat) : Binary f :=
  if canonical : f.Canonical mantissa exponent then
    .finite negative mantissa exponent canonical
  else
    .inf negative

def zero (negative : Bool) : Binary f := make negative 0 0

instance : Inhabited (Binary f) := ⟨zero false⟩

def isNaN : Binary f → Bool
  | .nan => true
  | _ => false

def isFinite : Binary f → Bool
  | .finite .. => true
  | _ => false

def signed (negative : Bool) (n : Nat) : Int := if negative then -(n : Int) else n

/-- The signed count of units. Infinities lie beyond every finite number; NaN has no place. -/
def scaled : Binary f → Option Int
  | .nan => none
  | .inf negative => some (signed negative (2 ^ (f.precision + f.topExponent)))
  | .finite negative mantissa exponent _ => some (signed negative (mantissa * 2 ^ exponent))

instance : LT (Binary f) where
  lt a b := ∃ x ∈ a.scaled, ∃ y ∈ b.scaled, x < y

instance : LE (Binary f) where
  le a b := ∃ x ∈ a.scaled, ∃ y ∈ b.scaled, x ≤ y

theorem lt_def {a b : Binary f} : a < b ↔ ∃ x ∈ a.scaled, ∃ y ∈ b.scaled, x < y := Iff.rfl

theorem le_def {a b : Binary f} : a ≤ b ↔ ∃ x ∈ a.scaled, ∃ y ∈ b.scaled, x ≤ y := Iff.rfl

instance (a b : Binary f) : Decidable (a < b) :=
  match ha : a.scaled, hb : b.scaled with
  | some x, some y =>
    if h : x < y then .isTrue ⟨x, ha, y, hb, h⟩
    else .isFalse fun ⟨x', hx, y', hy, lt⟩ => by
      rw [ha] at hx
      rw [hb] at hy
      cases hx
      cases hy
      exact h lt
  | none, _ => .isFalse fun ⟨x', hx, _⟩ => by
    rw [ha] at hx
    cases hx
  | some _, none => .isFalse fun ⟨_, _, y', hy, _⟩ => by
    rw [hb] at hy
    cases hy

instance (a b : Binary f) : Decidable (a ≤ b) :=
  match ha : a.scaled, hb : b.scaled with
  | some x, some y =>
    if h : x ≤ y then .isTrue ⟨x, ha, y, hb, h⟩
    else .isFalse fun ⟨x', hx, y', hy, le⟩ => by
      rw [ha] at hx
      rw [hb] at hy
      cases hx
      cases hy
      exact h le
  | none, _ => .isFalse fun ⟨x', hx, _⟩ => by
    rw [ha] at hx
    cases hx
  | some _, none => .isFalse fun ⟨_, _, y', hy, _⟩ => by
    rw [hb] at hy
    cases hy

/-- Equal as numbers: the two zeros are, NaN is equal to nothing. -/
def numEq (a b : Binary f) : Bool :=
  match a.scaled, b.scaled with
  | some x, some y => x == y
  | _, _ => false

protected def neg : Binary f → Binary f
  | .nan => .nan
  | .inf negative => .inf (!negative)
  | .finite negative mantissa exponent canonical => .finite (!negative) mantissa exponent canonical

instance : Neg (Binary f) := ⟨Binary.neg⟩

/-- The larger of two numbers. NaN gives way to the other side; of equal numbers the first is taken. -/
protected def max (a b : Binary f) : Binary f := if a.isNaN ∨ a < b then b else a

instance : Max (Binary f) := ⟨Binary.max⟩

end Binary
end SpinnerRemote
