import SpinnerRemote.Binary.Rounding
import Mathlib.Algebra.Order.Floor.Semifield
import Mathlib.Data.Nat.Log
import Mathlib.Data.Rat.Floor
import Mathlib.Tactic.FieldSimp
import Mathlib.Tactic.Linarith
import Mathlib.Tactic.Positivity
import Mathlib.Tactic.Ring

/-!
Rounding to nearest of quotients of naturals, in units of a format and without an upper end.

`Format.nearest` is the count of units that `Binary.round` settles on. It is monotone in the quotient,
leaves every count alone that has a mantissa in the format, and is off by at most half a unit or by the
quotient's `2 ^ precision`th part.
-/
namespace SpinnerRemote

/- Powers of numbers are the core library's, whatever else is in scope. -/
attribute [local instance(high)] instPowNat

/-- The rounded quotient is within a half of the quotient, and even where two are equally near. -/
theorem roundDiv_spec (num : Nat) {den : Nat} (positive : 0 < den) :
    (roundDiv num den : ℚ) ≤ num / den + 1 / 2 ∧ (num / den : ℚ) ≤ roundDiv num den + 1 / 2 ∧
      ((roundDiv num den : ℚ) = num / den + 1 / 2 ∨ (num / den : ℚ) = roundDiv num den + 1 / 2 →
        roundDiv num den % 2 = 0) := by
  have den_positive : (0 : ℚ) < den := by exact_mod_cast positive
  have quotient : (num / den : ℚ) = (num / den : Nat) + ((num % den : Nat) / den : ℚ) := by
    have division : (num : ℚ) = den * (num / den : Nat) + (num % den : Nat) := by
      exact_mod_cast (Nat.div_add_mod num den).symm
    rw [division]
    field_simp
  have share_nonneg : (0 : ℚ) ≤ (num % den : Nat) / den := by positivity
  have share_lt : ((num % den : Nat) / den : ℚ) < 1 := by
    rw [div_lt_one den_positive]
    exact_mod_cast Nat.mod_lt num positive
  rw [quotient]
  unfold roundDiv
  dsimp only
  split
  · rename_i below
    have share : ((num % den : Nat) / den : ℚ) < 1 / 2 := by
      rw [div_lt_div_iff₀ den_positive two_pos]
      exact_mod_cast by omega
    refine ⟨by linarith, by linarith, ?_⟩
    rintro (tie | tie) <;> linarith
  · split
    · rename_i above
      have share : (1 / 2 : ℚ) < (num % den : Nat) / den := by
        rw [div_lt_div_iff₀ two_pos den_positive]
        exact_mod_cast by omega
      push_cast
      refine ⟨by linarith, by linarith, ?_⟩
      rintro (tie | tie) <;> linarith
    · have share : ((num % den : Nat) / den : ℚ) = 1 / 2 := by
        rw [div_eq_div_iff den_positive.ne' two_ne_zero]
        exact_mod_cast by omega
      rw [share]
      obtain even | odd := Nat.mod_two_eq_zero_or_one (num / den)
      · rw [even]
        exact ⟨by push_cast; linarith, by push_cast; linarith, fun _ => by omega⟩
      · rw [odd]
        exact ⟨by push_cast; linarith, by push_cast; linarith, fun _ => by omega⟩

theorem roundDiv_mono {num den num' den' : Nat} (positive : 0 < den) (positive' : 0 < den')
    (le : (num / den : ℚ) ≤ num' / den') : roundDiv num den ≤ roundDiv num' den' := by
  obtain ⟨upper, -, tie⟩ := roundDiv_spec num positive
  obtain ⟨-, lower', tie'⟩ := roundDiv_spec num' positive'
  by_contra less
  have gap : (roundDiv num' den' : ℚ) + 1 ≤ roundDiv num den := by exact_mod_cast by omega
  have even := tie (.inl (by linarith))
  have even' := tie' (.inr (by linarith))
  have consecutive : (roundDiv num den : ℚ) = roundDiv num' den' + 1 := by linarith
  have consecutive : roundDiv num den = roundDiv num' den' + 1 := by exact_mod_cast consecutive
  omega

theorem roundDiv_mul_right (n : Nat) {den : Nat} (positive : 0 < den) : roundDiv (n * den) den = n := by
  simp [roundDiv, Nat.mul_div_cancel n positive, positive]

namespace Format

variable {f : Format}

def exponentFor (f : Format) (num den : Nat) : Nat := (num / den).log2 + 1 - f.precision

def mantissaFor (f : Format) (num den : Nat) : Nat := roundDiv num (den * 2 ^ f.exponentFor num den)

/-- The count of units nearest to a quotient among those that fit a mantissa. -/
def nearest (f : Format) (num den : Nat) : Nat := f.mantissaFor num den * 2 ^ f.exponentFor num den

def largest (f : Format) : Nat := (2 ^ f.precision - 1) * 2 ^ f.topExponent

/-- Counts of units that fit a mantissa at some exponent, however large. -/
def Fits (f : Format) (n : Nat) : Prop :=
  ∃ mantissa exponent, mantissa < 2 ^ f.precision ∧ n = mantissa * 2 ^ exponent

theorem exponentFor_mono {num den num' den' : Nat} (le : (num / den : ℚ) ≤ num' / den') :
    f.exponentFor num den ≤ f.exponentFor num' den' := by
  have floors : num / den ≤ num' / den' := by
    simpa only [Nat.floor_div_eq_div] using Nat.floor_mono le
  have logs : (num / den).log2 ≤ (num' / den').log2 := by
    rw [Nat.log2_eq_log_two, Nat.log2_eq_log_two]
    exact Nat.log_mono_right floors
  unfold exponentFor
  omega

theorem lt_exponentFor (f : Format) (num den : Nat) :
    (num / den : ℚ) < 2 ^ (f.precision + f.exponentFor num den) := by
  have floor : ⌊(num / den : ℚ)⌋₊ < 2 ^ (f.precision + f.exponentFor num den) := by
    rw [Nat.floor_div_eq_div]
    calc
      num / den < 2 ^ ((num / den).log2 + 1) := Nat.lt_log2_self
      _ ≤ 2 ^ (f.precision + f.exponentFor num den) :=
        Nat.pow_le_pow_right two_pos (by unfold exponentFor; omega)
  exact_mod_cast (Nat.floor_lt (by positivity)).mp floor

theorem exponentFor_le {num den : Nat} (beyond : 0 < f.exponentFor num den) :
    (2 ^ (f.precision - 1 + f.exponentFor num den) : ℚ) ≤ num / den := by
  have wide := f.precision_pos
  have nonzero : num / den ≠ 0 := by
    intro zero
    simp [exponentFor, zero] at beyond
    omega
  have floor : 2 ^ (f.precision - 1 + f.exponentFor num den) ≤ ⌊(num / den : ℚ)⌋₊ := by
    rw [Nat.floor_div_eq_div]
    calc
      2 ^ (f.precision - 1 + f.exponentFor num den) = 2 ^ (num / den).log2 := by
        unfold exponentFor at beyond ⊢
        congr 1
        omega
      _ ≤ num / den := Nat.log2_self_le nonzero
  exact_mod_cast (Nat.le_floor_iff (by positivity)).mp floor

theorem mantissaFor_le (f : Format) (num : Nat) {den : Nat} (positive : 0 < den) :
    f.mantissaFor num den ≤ 2 ^ f.precision := by
  have below : (num / (den * 2 ^ f.exponentFor num den : Nat) : ℚ) ≤
      (2 ^ f.precision * 1 : Nat) / (1 : Nat) := by
    push_cast
    rw [← div_div, div_le_iff₀ (by positivity)]
    simpa [pow_add] using (f.lt_exponentFor num den).le
  have le := roundDiv_mono (by positivity) one_pos below
  rwa [roundDiv_mul_right _ one_pos] at le

theorem le_mantissaFor {num den : Nat} (positive : 0 < den)
    (beyond : 0 < f.exponentFor num den) : 2 ^ (f.precision - 1) ≤ f.mantissaFor num den := by
  have above : ((2 ^ (f.precision - 1) * 1 : Nat) / (1 : Nat) : ℚ) ≤
      num / (den * 2 ^ f.exponentFor num den : Nat) := by
    push_cast
    rw [← div_div, le_div_iff₀ (by positivity)]
    simpa [pow_add] using exponentFor_le beyond
  have le := roundDiv_mono one_pos (by positivity) above
  rwa [roundDiv_mul_right _ one_pos] at le

theorem nearest_mono {num den num' den' : Nat} (positive : 0 < den)
    (positive' : 0 < den') (le : (num / den : ℚ) ≤ num' / den') :
    f.nearest num den ≤ f.nearest num' den' := by
  unfold nearest
  obtain same | less := (exponentFor_mono (f := f) le).eq_or_lt
  · have mantissas : f.mantissaFor num den ≤ f.mantissaFor num' den' := by
      unfold mantissaFor
      rw [← same]
      refine roundDiv_mono (by positivity) (by positivity) ?_
      push_cast
      rw [← div_div, ← div_div]
      gcongr
    rw [← same]
    exact Nat.mul_le_mul_right _ mantissas
  · -- The lesser quotient rounds at most to the power of two from which the greater exponent starts.
    calc
      f.mantissaFor num den * 2 ^ f.exponentFor num den ≤ 2 ^ f.precision * 2 ^ f.exponentFor num den :=
        Nat.mul_le_mul_right _ (f.mantissaFor_le num positive)
      _ = 2 ^ (f.precision + f.exponentFor num den) := (Nat.pow_add ..).symm
      _ ≤ 2 ^ (f.precision - 1 + f.exponentFor num' den') := Nat.pow_le_pow_right two_pos (by omega)
      _ = 2 ^ (f.precision - 1) * 2 ^ f.exponentFor num' den' := Nat.pow_add ..
      _ ≤ f.mantissaFor num' den' * 2 ^ f.exponentFor num' den' :=
        Nat.mul_le_mul_right _ (le_mantissaFor positive' (by omega))

theorem nearest_of_fits {n den : Nat} (positive : 0 < den) (fits : f.Fits n) :
    f.nearest (n * den) den = n := by
  obtain ⟨mantissa, exponent, bound, units⟩ := fits
  have multiple : ∃ count, n = count * 2 ^ f.exponentFor (n * den) den := by
    obtain least | beyond := (f.exponentFor (n * den) den).eq_zero_or_pos
    · exact ⟨n, by simp [least]⟩
    · have filled : 2 ^ (f.precision - 1 + f.exponentFor (n * den) den) ≤ n := by
        have filled := exponentFor_le beyond
        rw [Nat.cast_mul, mul_div_cancel_right₀ _ (by positivity)] at filled
        exact_mod_cast filled
      have powers : 2 ^ (f.precision - 1 + f.exponentFor (n * den) den) < 2 ^ (f.precision + exponent) := by
        refine filled.trans_lt ?_
        rw [units, Nat.pow_add]
        exact Nat.mul_lt_mul_of_pos_right bound (by positivity)
      have exponents := (Nat.pow_lt_pow_iff_right (by omega)).mp powers
      refine ⟨mantissa * 2 ^ (exponent - f.exponentFor (n * den) den), ?_⟩
      rw [Nat.mul_assoc, ← Nat.pow_add, Nat.sub_add_cancel (by omega)]
      exact units
  obtain ⟨count, count_eq⟩ := multiple
  have mantissa_eq : f.mantissaFor (n * den) den = count := by
    unfold mantissaFor
    conv_lhs => enter [1]; rw [count_eq]
    rw [Nat.mul_right_comm, Nat.mul_assoc]
    exact roundDiv_mul_right _ (by positivity)
  unfold nearest
  rw [mantissa_eq, ← count_eq]

theorem nearest_zero {den : Nat} (positive : 0 < den) : f.nearest 0 den = 0 := by
  have fits : f.Fits 0 := ⟨0, 0, by positivity, by simp⟩
  simpa using nearest_of_fits positive fits

theorem nearest_congr {num den num' den' : Nat} (positive : 0 < den) (positive' : 0 < den')
    (same : (num / den : ℚ) = num' / den') : f.nearest num den = f.nearest num' den' :=
  le_antisymm (nearest_mono positive positive' same.le) (nearest_mono positive' positive same.ge)

theorem nearest_of_carried {num den : Nat} (carried : f.mantissaFor num den = 2 ^ f.precision) :
    2 ^ (f.precision - 1) * 2 ^ (f.exponentFor num den + 1) = f.nearest num den := by
  have wide := f.precision_pos
  unfold nearest
  rw [carried, ← Nat.pow_add, ← Nat.pow_add]
  congr 1
  omega

theorem nearest_error (num : Nat) {den : Nat} (positive : 0 < den) :
    |(f.nearest num den : ℚ) - num / den| ≤ num / den / 2 ^ f.precision + 1 / 2 := by
  have denominator : 0 < den * 2 ^ f.exponentFor num den := by positivity
  obtain ⟨upper, lower, -⟩ := roundDiv_spec num denominator
  have half : |(f.mantissaFor num den : ℚ) - num / den / 2 ^ f.exponentFor num den| ≤ 1 / 2 := by
    push_cast [← div_div] at upper lower
    rw [abs_le]
    unfold mantissaFor
    constructor <;> linarith
  have scaled : |(f.nearest num den : ℚ) - num / den| ≤ 1 / 2 * 2 ^ f.exponentFor num den := by
    have split : (f.nearest num den : ℚ) - num / den =
        (f.mantissaFor num den - num / den / 2 ^ f.exponentFor num den) * 2 ^ f.exponentFor num den := by
      unfold nearest
      push_cast
      field_simp
    rw [split, abs_mul, abs_of_pos (by positivity : (0 : ℚ) < 2 ^ f.exponentFor num den)]
    gcongr
  refine scaled.trans ?_
  obtain least | beyond := (f.exponentFor num den).eq_zero_or_pos
  · rw [least]
    have share : (0 : ℚ) ≤ num / den / 2 ^ f.precision := by positivity
    linarith
  · have share : (1 / 2 * 2 ^ f.exponentFor num den : ℚ) ≤ num / den / 2 ^ f.precision := by
      rw [le_div_iff₀ (by positivity)]
      calc
        (1 / 2 * 2 ^ f.exponentFor num den * 2 ^ f.precision : ℚ) =
            2 ^ (f.precision - 1 + f.exponentFor num den) := by
          obtain ⟨bits, precision⟩ := Nat.exists_eq_succ_of_ne_zero f.precision_pos.ne'
          rw [precision, Nat.succ_eq_add_one, Nat.add_sub_cancel]
          ring
        _ ≤ num / den := exponentFor_le beyond
    linarith

theorem nearest_of_lt_half {num den : Nat} (small : 2 * num < den) : f.nearest num den = 0 := by
  have less : num < den := by omega
  have least : f.exponentFor num den = 0 := by
    have wide := f.precision_pos
    rw [exponentFor, Nat.div_eq_of_lt less, Nat.log2_zero]
    omega
  have nothing : roundDiv num den = 0 := by
    simp [roundDiv, Nat.div_eq_of_lt less, Nat.mod_eq_of_lt less, small]
  simp [nearest, mantissaFor, least, nothing]

theorem largest_lt (f : Format) : f.largest < 2 ^ (f.precision + f.topExponent) := by
  rw [largest, Nat.pow_add]
  exact Nat.mul_lt_mul_of_pos_right (Nat.sub_lt (by positivity) one_pos) (by positivity)

/-- What begins where the format ends is rounded to nothing within it. -/
theorem largest_lt_nearest {num : Nat} (great : 2 ^ (f.precision + f.topExponent) ≤ num) :
    f.largest < f.nearest num 1 := by
  have fits : f.Fits (2 ^ (f.precision + f.topExponent)) := by
    refine ⟨2 ^ (f.precision - 1), f.topExponent + 1, ?_, ?_⟩
    · exact Nat.pow_lt_pow_right (by omega) (Nat.sub_lt f.precision_pos one_pos)
    · have wide := f.precision_pos
      rw [← Nat.pow_add]
      congr 1
      omega
  have above : f.nearest (2 ^ (f.precision + f.topExponent) * 1) 1 ≤ f.nearest num 1 := by
    refine nearest_mono one_pos one_pos ?_
    push_cast
    rw [mul_one]
    gcongr
    exact_mod_cast great
  rw [nearest_of_fits one_pos fits] at above
  exact f.largest_lt.trans_le above

end Format
end SpinnerRemote
