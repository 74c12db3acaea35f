import SpinnerRemote.Proofs.Binary.Order

/-!
Bounds of single precision numbers by powers of two. A chain of operations stays finite as long as the powers
that bound its steps do, and the root of any number is far from the end of the format.

Between a number and the next one there is none: `le_or_next_le`.
-/
namespace SpinnerRemote.Binary
open Format

/- Powers of numbers are the core library's, whatever else is in scope. -/
attribute [local instance(high)] instPowNat

variable {a b x : Single} {j k : Nat}

theorem single_twoPow (top : k ≤ 127) : ∃ z : Single, z.isFinite = true ∧ z.value = 2 ^ k := by
  have canonical : Format.single.Canonical (2 ^ 23) (k + 126) := by
    refine ⟨by decide, ?_, .inr (by decide)⟩
    change k + 126 ≤ 253
    omega
  have unit : Format.single.unitExponent = 149 := rfl
  refine ⟨.finite false (2 ^ 23) (k + 126) canonical, rfl, ?_⟩
  simp only [value, signed_cast, unit, Bool.false_eq_true, if_false]
  push_cast
  rw [div_eq_iff (by positivity), pow_add]
  ring

theorem single_pos_iff (finite : x.isFinite = true) : 0 < x ↔ 0 < x.value := by
  obtain ⟨zero, zero_value⟩ := single_ofNat (n := 0) (by decide)
  have compared := lt_iff_value zero finite
  rwa [zero_value, Nat.cast_zero] at compared

theorem Rounds.within_twoPow {y : ℚ} (rounds : Rounds x y) (top : k ≤ 127) (le : |y| ≤ 2 ^ k) :
    x.isFinite = true ∧ x.value = Format.single.rounded y ∧ |x.value| ≤ 2 ^ k := by
  obtain ⟨z, finite, power⟩ := single_twoPow top
  obtain ⟨finite, value, within⟩ := rounds.of_abs_le finite (by rwa [power])
  rw [power, ← value] at within
  exact ⟨finite, value, within⟩

theorem single_end : Format.single.precision + Format.single.topExponent = 128 + 149 := rfl

theorem single_unit : Format.single.unitExponent = 149 := rfl

theorem single_abs_le (finite : x.isFinite = true) : |x.value| ≤ 2 ^ 128 := by
  refine (abs_value_le finite).trans ?_
  rw [greatest, div_le_iff₀ (by positivity), single_unit, ← pow_add, ← single_end]
  exact_mod_cast Format.single.largest_lt.le

section
variable (finite : a.isFinite = true) (finite' : b.isFinite = true) (le : |a.value| ≤ 2 ^ j)
include finite finite' le

theorem single_mul (le' : |b.value| ≤ 2 ^ k) (top : j + k ≤ 127) :
    (a * b).isFinite = true ∧ (a * b).value = Format.single.rounded (a.value * b.value) ∧
      |(a * b).value| ≤ 2 ^ (j + k) := by
  refine (mul_rounds finite finite').within_twoPow top ?_
  rw [abs_mul, pow_add]
  gcongr

theorem single_add (le' : |b.value| ≤ 2 ^ j) (top : j + 1 ≤ 127) :
    (a + b).isFinite = true ∧ (a + b).value = Format.single.rounded (a.value + b.value) ∧
      |(a + b).value| ≤ 2 ^ (j + 1) := by
  refine (add_rounds finite finite').within_twoPow top ?_
  have sum := abs_add_le a.value b.value
  rw [pow_succ]
  linarith

end

theorem scaled_lt {f : Format} {mantissa exponent : Nat} (canonical : f.Canonical mantissa exponent) {k : Nat}
    (halfway : f.precision + f.topExponent + f.unitExponent = k * 2) :
    mantissa * 2 ^ exponent * 2 ^ f.unitExponent < (2 ^ k) ^ 2 := by
  rw [← Nat.pow_mul, ← halfway, Nat.pow_add _ (f.precision + f.topExponent)]
  exact Nat.mul_lt_mul_of_pos_right canonical.lt_infinity (Nat.two_pow_pos _)

/-- The exact value that a root is rounded from is no more than `n` units if the number is less than their
square. -/
theorem sqrt_rounds {f : Format} {mantissa exponent n : Nat} (canonical : f.Canonical mantissa exponent)
    (nonzero : mantissa ≠ 0) (small : mantissa * 2 ^ exponent * 2 ^ f.unitExponent < n ^ 2) :
    ∃ y : ℚ, |y| ≤ n / 2 ^ f.unitExponent ∧
      Rounds (Binary.finite false mantissa exponent canonical).sqrt y := by
  have below := Nat.sqrt_lt'.mpr small
  simp only [sqrt, if_neg nonzero, Bool.false_eq_true, if_false]
  generalize (mantissa * 2 ^ exponent * 2 ^ f.unitExponent).sqrt = root at below
  split
  · refine ⟨_, ?_, round_rounds false root one_pos⟩
    rw [abs_quotient, Nat.cast_one, div_one]
    gcongr
  · refine ⟨_, ?_, round_rounds false (2 * root + 1) two_pos⟩
    rw [abs_quotient]
    have whole : (root + 1 : ℚ) ≤ n := by exact_mod_cast below
    push_cast
    gcongr
    linarith

/-- The root of a number is less than the root of the format's end, which is the power of two halfway. -/
theorem single_sqrt (finite : x.isFinite = true) (nonneg : 0 ≤ x.value) :
    x.sqrt.isFinite = true ∧ |x.sqrt.value| ≤ 2 ^ 64 := by
  obtain ⟨negative, mantissa, exponent, canonical, rfl⟩ := exists_finite finite
  by_cases zero : mantissa = 0
  · have same : (Binary.finite negative mantissa exponent canonical).sqrt =
        .finite negative mantissa exponent canonical := if_pos zero
    rw [same]
    exact ⟨rfl, by simp [value, zero, signed_cast]⟩
  · obtain rfl : negative = false := (value_nonneg_iff.mp nonneg).resolve_right zero
    have halfway :
        Format.single.precision + Format.single.topExponent + Format.single.unitExponent = (64 + 149) * 2 := rfl
    obtain ⟨y, bound, rounds⟩ := sqrt_rounds canonical zero (scaled_lt canonical halfway)
    have bound : |y| ≤ 2 ^ 64 := by
      rwa [single_unit, Nat.cast_pow, Nat.cast_two, pow_add, mul_div_cancel_right₀ _ (by positivity)] at bound
    obtain ⟨finite, -, within⟩ := rounds.within_twoPow (by decide) bound
    exact ⟨finite, within⟩

/-- No number lies between one of some mantissa and that of the next mantissa. -/
theorem le_or_next_le {f : Format} {mantissa exponent : Nat} (canonical : f.Canonical mantissa exponent)
    (next : f.Canonical (mantissa + 1) exponent) {b : Binary f} (number : b.isNaN = false) :
    b ≤ .finite false mantissa exponent canonical ∨ .finite false (mantissa + 1) exponent next ≤ b := by
  have place {units : Int} (scaled : b.scaled = some units)
      (apart : units ≤ (mantissa * 2 ^ exponent : Nat) ∨ ((mantissa + 1) * 2 ^ exponent : Nat) ≤ units) :
      b ≤ .finite false mantissa exponent canonical ∨ .finite false (mantissa + 1) exponent next ≤ b :=
    apart.imp (fun le => ⟨units, scaled, _, rfl, le⟩) (fun le => ⟨_, rfl, units, scaled, le⟩)
  cases b with
  | nan => cases number
  | inf negative =>
    cases negative with
    | true => exact .inl (between_infinities rfl).1
    | false => exact .inr (between_infinities rfl).2
  | finite negative mantissa' exponent' canonical' =>
    cases negative with
    | true =>
      refine place rfl (.inl ?_)
      simp only [signed, if_true]
      omega
    | false =>
      refine place rfl ?_
      simp only [signed, Bool.false_eq_true, if_false, Nat.cast_le]
      obtain less | at_least := lt_or_ge exponent' exponent
      · -- A mantissa that is filled at the greater exponent is beyond all at the lesser one.
        have filled : 2 ^ (f.precision - 1) ≤ mantissa := canonical.2.2.resolve_left (by omega)
        refine .inl (le_of_lt ?_)
        calc
          mantissa' * 2 ^ exponent' < 2 ^ f.precision * 2 ^ exponent' := by
            have bound := canonical'.1
            gcongr
          _ = 2 ^ (f.precision + exponent') := (Nat.pow_add ..).symm
          _ ≤ 2 ^ (f.precision - 1 + exponent) := Nat.pow_le_pow_right two_pos (by omega)
          _ = 2 ^ (f.precision - 1) * 2 ^ exponent := Nat.pow_add ..
          _ ≤ mantissa * 2 ^ exponent := Nat.mul_le_mul_right _ filled
      · have shifted : mantissa' * 2 ^ exponent' =
            mantissa' * 2 ^ (exponent' - exponent) * 2 ^ exponent := by
          rw [Nat.mul_assoc, ← Nat.pow_add, Nat.sub_add_cancel at_least]
        rw [shifted]
        obtain le | greater := le_or_gt (mantissa' * 2 ^ (exponent' - exponent)) mantissa
        · exact .inl (Nat.mul_le_mul_right _ le)
        · exact .inr (Nat.mul_le_mul_right _ greater)

end SpinnerRemote.Binary
