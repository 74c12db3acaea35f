import SpinnerRemote.Proofs.Binary.Nearest
import Mathlib.Data.Rat.Lemmas

/-!
Binary floating point numbers as rational numbers. A finite one has a value, and `Format.rounded` is
rounding to nearest on the rationals, without an upper end.

Rounding is odd and monotone, leaves the values of the format alone, and is off by at most half a unit
or by the value's `2 ^ precision`th part.
-/
namespace SpinnerRemote

/- Powers of numbers are the core library's, whatever else is in scope. -/
attribute [local instance(high)] instPowNat

namespace Binary

variable {f : Format}

def value : Binary f → ℚ
  | .finite negative mantissa exponent _ =>
    signed negative (mantissa * 2 ^ exponent) / 2 ^ f.unitExponent
  | _ => 0

theorem exists_finite {x : Binary f} (finite : x.isFinite = true) :
    ∃ negative mantissa exponent canonical, x = .finite negative mantissa exponent canonical := by
  cases x with
  | nan => cases finite
  | inf => cases finite
  | finite negative mantissa exponent canonical => exact ⟨_, _, _, _, rfl⟩

theorem signed_cast (negative : Bool) (n : Nat) :
    (signed negative n : ℚ) = if negative then -(n : ℚ) else n := by
  cases negative <;> simp [signed]

theorem signed_mul (s t : Bool) (m n : Nat) :
    (signed (s != t) (m * n) : ℚ) = signed s m * signed t n := by
  cases s <;> cases t <;> simp [signed_cast]

theorem signed_scale (negative : Bool) (n k : Nat) :
    (signed negative (n * k) : ℚ) = signed negative n * k := by
  cases negative <;> simp [signed_cast]

theorem natAbs_signed (negative : Bool) (n : Nat) : (signed negative n).natAbs = n := by
  cases negative <;> simp [signed]

theorem abs_signed (negative : Bool) (n : Nat) : |(signed negative n : ℚ)| = n := by
  cases negative <;> simp [signed_cast]

end Binary

namespace Format
open Binary

variable {f : Format}

/-- A rational number rounded to the format, as if there was no greatest number. -/
def rounded (f : Format) (y : ℚ) : ℚ :=
  signed (y < 0)
    (f.nearest (|y| * 2 ^ f.unitExponent).num.natAbs (|y| * 2 ^ f.unitExponent).den) / 2 ^ f.unitExponent

def greatest (f : Format) : ℚ := f.largest / 2 ^ f.unitExponent

theorem natAbs_div_den {q : ℚ} (nonneg : 0 ≤ q) : (q.num.natAbs / q.den : ℚ) = q := by
  conv_rhs => rw [← Rat.num_div_den q, ← Int.natAbs_of_nonneg (Rat.num_nonneg.mpr nonneg)]
  rfl

theorem quotient_negative (f : Format) (negative : Bool) {num den : Nat} (nonzero : 0 < num)
    (positive : 0 < den) :
    decide ((signed negative num / den / 2 ^ f.unitExponent : ℚ) < 0) = negative := by
  have magnitude : (0 : ℚ) < num / den / 2 ^ f.unitExponent := by positivity
  cases negative with
  | false => simpa [signed_cast] using magnitude.le
  | true => simpa [signed_cast, neg_div] using magnitude

theorem abs_quotient (f : Format) (negative : Bool) (num den : Nat) :
    |(signed negative num / den / 2 ^ f.unitExponent : ℚ)| = num / den / 2 ^ f.unitExponent := by
  rw [abs_div, abs_div, abs_signed, Nat.abs_cast, abs_of_pos (by positivity)]

theorem rounded_quotient (negative : Bool) (num : Nat) {den : Nat} (positive : 0 < den) :
    f.rounded (signed negative num / den / 2 ^ f.unitExponent) =
      signed negative (f.nearest num den) / 2 ^ f.unitExponent := by
  have units : |(signed negative num / den / 2 ^ f.unitExponent : ℚ)| * 2 ^ f.unitExponent = num / den := by
    rw [abs_quotient]
    field_simp
  unfold rounded
  rw [units, nearest_congr (Rat.den_pos _) positive (natAbs_div_den (by positivity))]
  obtain rfl | nonzero := num.eq_zero_or_pos
  · simp [signed, nearest_zero positive]
  · rw [quotient_negative f negative nonzero positive]

theorem exists_quotient (f : Format) (y : ℚ) :
    ∃ (num den : Nat), 0 < den ∧ y = signed (y < 0) num / den / 2 ^ f.unitExponent := by
  refine ⟨(|y| * 2 ^ f.unitExponent).num.natAbs, (|y| * 2 ^ f.unitExponent).den, Rat.den_pos _, ?_⟩
  have quotient := natAbs_div_den (by positivity : 0 ≤ |y| * 2 ^ f.unitExponent)
  obtain negative | nonneg := lt_or_ge y 0
  · rw [signed_cast, if_pos (by simpa using negative), neg_div, quotient, abs_of_neg negative]
    field_simp
  · rw [signed_cast, if_neg (by simpa using nonneg), quotient, abs_of_nonneg nonneg]
    field_simp

theorem rounded_neg (y : ℚ) : f.rounded (-y) = -f.rounded y := by
  obtain ⟨num, den, positive, quotient⟩ := exists_quotient f y
  have flip (n : Nat) : (signed (!decide (y < 0)) n : ℚ) = -signed (y < 0) n := by
    cases decide (y < 0) <;> simp [signed_cast]
  have negated : -y = signed (!decide (y < 0)) num / den / 2 ^ f.unitExponent := by
    rw [flip]
    conv_lhs => rw [quotient]
    ring
  conv_rhs => rw [quotient, rounded_quotient _ _ positive]
  rw [negated, rounded_quotient _ _ positive, flip]
  ring

theorem rounded_nonneg (y : ℚ) (nonneg : 0 ≤ y) : 0 ≤ f.rounded y := by
  unfold rounded
  rw [signed_cast, if_neg (by simpa using nonneg)]
  positivity

theorem rounded_mono_nonneg {y z : ℚ} (nonneg : 0 ≤ y) (le : y ≤ z) : f.rounded y ≤ f.rounded z := by
  obtain ⟨num, den, positive, quotient⟩ := exists_quotient f y
  obtain ⟨num', den', positive', quotient'⟩ := exists_quotient f z
  rw [decide_eq_false (not_lt.mpr nonneg)] at quotient
  rw [decide_eq_false (not_lt.mpr (nonneg.trans le))] at quotient'
  have units : (num / den : ℚ) ≤ num' / den' := by
    rw [quotient, quotient', div_le_div_iff_of_pos_right (by positivity)] at le
    simpa [signed_cast] using le
  have counts := nearest_mono (f := f) positive positive' units
  rw [quotient, quotient', rounded_quotient _ _ positive, rounded_quotient _ _ positive']
  simp only [signed_cast, Bool.false_eq_true, if_false]
  gcongr

theorem rounded_mono {y z : ℚ} (le : y ≤ z) : f.rounded y ≤ f.rounded z := by
  obtain nonneg | negative := le_or_gt 0 y
  · exact rounded_mono_nonneg nonneg le
  · obtain nonneg' | negative' := le_or_gt 0 z
    · have below := rounded_nonneg (f := f) (-y) (by linarith)
      rw [rounded_neg] at below
      have above := rounded_nonneg (f := f) z nonneg'
      linarith
    · have mirrored := rounded_mono_nonneg (f := f) (y := -z) (z := -y) (by linarith) (by linarith)
      rw [rounded_neg, rounded_neg] at mirrored
      linarith

theorem rounded_error (y : ℚ) :
    |f.rounded y - y| ≤ |y| / 2 ^ f.precision + 1 / 2 / 2 ^ f.unitExponent := by
  obtain ⟨num, den, positive, quotient⟩ := exists_quotient f y
  have apart : |f.rounded y - y| = |(f.nearest num den : ℚ) - num / den| / 2 ^ f.unitExponent := by
    conv_lhs => rw [quotient, rounded_quotient _ _ positive]
    rw [← sub_div, abs_div, abs_of_pos (by positivity : (0 : ℚ) < 2 ^ f.unitExponent)]
    congr 1
    cases decide (y < 0)
    · simp [signed_cast]
    · rw [← abs_neg]
      congr 1
      simp [signed_cast]
      ring
  have size : |y| = num / den / 2 ^ f.unitExponent := by
    conv_lhs => rw [quotient]
    exact abs_quotient f _ num den
  rw [apart, size, div_right_comm _ _ (2 ^ f.precision : ℚ), ← add_div]
  gcongr
  exact nearest_error num positive

theorem le_largest {mantissa exponent : Nat} (fits : mantissa < 2 ^ f.precision)
    (top : exponent ≤ f.topExponent) : mantissa * 2 ^ exponent ≤ f.largest :=
  Nat.mul_le_mul (Nat.le_sub_one_of_lt fits) (Nat.pow_le_pow_right two_pos top)

theorem Canonical.le_largest {mantissa exponent : Nat} (canonical : f.Canonical mantissa exponent) :
    mantissa * 2 ^ exponent ≤ f.largest :=
  Format.le_largest canonical.1 canonical.2.1

theorem Canonical.lt_infinity {mantissa exponent : Nat} (canonical : f.Canonical mantissa exponent) :
    mantissa * 2 ^ exponent < 2 ^ (f.precision + f.topExponent) :=
  canonical.le_largest.trans_lt f.largest_lt

/-- A mantissa that fills its width as far as it can has its exponent in the format if it has its value. -/
theorem canonical_iff {mantissa exponent : Nat} (fits : mantissa < 2 ^ f.precision)
    (filled : exponent = 0 ∨ 2 ^ (f.precision - 1) ≤ mantissa) :
    f.Canonical mantissa exponent ↔ mantissa * 2 ^ exponent ≤ f.largest := by
  refine ⟨Canonical.le_largest, fun small => ⟨fits, ?_, filled⟩⟩
  by_contra beyond
  have filled : 2 ^ (f.precision - 1) ≤ mantissa := filled.resolve_left (by omega)
  have contradiction :=
    calc
      2 ^ (f.precision + f.topExponent) ≤ 2 ^ (f.precision - 1 + exponent) :=
        Nat.pow_le_pow_right two_pos (by omega)
      _ = 2 ^ (f.precision - 1) * 2 ^ exponent := Nat.pow_add ..
      _ ≤ mantissa * 2 ^ exponent := Nat.mul_le_mul_right _ filled
      _ ≤ (2 ^ f.precision - 1) * 2 ^ f.topExponent := small
      _ < 2 ^ f.precision * 2 ^ f.topExponent :=
        Nat.mul_lt_mul_of_pos_right (Nat.sub_lt (by positivity) one_pos) (by positivity)
      _ = 2 ^ (f.precision + f.topExponent) := (Nat.pow_add ..).symm
  exact contradiction.false

theorem Canonical.fits {mantissa exponent : Nat} (canonical : f.Canonical mantissa exponent) :
    f.Fits (mantissa * 2 ^ exponent) := ⟨mantissa, exponent, canonical.1, rfl⟩

theorem rounded_of_fits (negative : Bool) {units : Nat} (fits : f.Fits units) :
    f.rounded (signed negative units / 2 ^ f.unitExponent) = signed negative units / 2 ^ f.unitExponent := by
  have exact := nearest_of_fits one_pos fits
  have quotient := rounded_quotient (f := f) negative units one_pos
  rw [Nat.mul_one] at exact
  rw [exact, Nat.cast_one, div_one] at quotient
  exact quotient

theorem rounded_value {x : Binary f} (finite : x.isFinite = true) : f.rounded x.value = x.value := by
  obtain ⟨negative, mantissa, exponent, canonical, rfl⟩ := exists_finite finite
  exact rounded_of_fits negative canonical.fits

theorem abs_value_le {x : Binary f} (finite : x.isFinite = true) : |x.value| ≤ f.greatest := by
  obtain ⟨negative, mantissa, exponent, canonical, rfl⟩ := exists_finite finite
  rw [value, abs_div, abs_signed, abs_of_pos (by positivity), greatest]
  gcongr
  exact canonical.le_largest

end Format
end SpinnerRemote
