import SpinnerRemote.Binary.Arithmetic
import SpinnerRemote.Proofs.Binary.Value

/-!
Every operation gives the rounding of its exact result: `Rounds` says that a number is the rounding of a
rational number, or the infinity of its sign where the format ends. A chain of operations is then a
matter of linear inequalities between values.
-/
namespace SpinnerRemote.Binary
open Format

/- Powers of numbers are the core library's, whatever else is in scope. -/
attribute [local instance(high)] instPowNat

variable {f : Format}

/-- A number is the rounding of an exact value. -/
structure Rounds (x : Binary f) (y : ℚ) : Prop where
  within : |f.rounded y| ≤ f.greatest → x.isFinite = true ∧ x.value = f.rounded y
  beyond : f.greatest < |f.rounded y| → x = .inf (y < 0)

theorem round_carried {num den : Nat} (negative : Bool) (carried : f.mantissaFor num den = 2 ^ f.precision) :
    round negative num den =
      (make negative (2 ^ (f.precision - 1)) (f.exponentFor num den + 1) : Binary f) :=
  if_pos carried

theorem round_fitting {num den : Nat} (negative : Bool) (fits : f.mantissaFor num den ≠ 2 ^ f.precision) :
    round negative num den = (make negative (f.mantissaFor num den) (f.exponentFor num den) : Binary f) :=
  if_neg fits

/-- The mantissa and exponent of a rounding; the format has them unless they lie beyond its end. -/
theorem round_eq_make (negative : Bool) (num : Nat) {den : Nat} (positive : 0 < den) :
    ∃ mantissa exponent, round negative num den = (make negative mantissa exponent : Binary f) ∧
      mantissa * 2 ^ exponent = f.nearest num den ∧
      (f.Canonical mantissa exponent ↔ f.nearest num den ≤ f.largest) := by
  obtain carried | fits := eq_or_ne (f.mantissaFor num den) (2 ^ f.precision)
  · have units := Format.nearest_of_carried carried
    refine ⟨_, _, round_carried negative carried, units, ?_⟩
    rw [← units]
    have wide := f.precision_pos
    exact Format.canonical_iff (Nat.pow_lt_pow_right (by omega) (by omega)) (.inr le_rfl)
  · have fits := lt_of_le_of_ne (f.mantissaFor_le num positive) fits
    refine ⟨_, _, round_fitting negative fits.ne, rfl, Format.canonical_iff fits ?_⟩
    obtain least | beyond := (f.exponentFor num den).eq_zero_or_pos
    · exact .inl least
    · exact .inr (Format.le_mantissaFor positive beyond)

theorem abs_rounded_le_iff (negative : Bool) (num : Nat) {den : Nat} (positive : 0 < den) :
    |f.rounded (signed negative num / den / 2 ^ f.unitExponent)| ≤ f.greatest ↔
      f.nearest num den ≤ f.largest := by
  rw [rounded_quotient negative num positive, abs_div, abs_signed,
    abs_of_pos (by positivity : (0 : ℚ) < 2 ^ f.unitExponent), Format.greatest,
    div_le_div_iff_of_pos_right (by positivity)]
  exact_mod_cast Iff.rfl

theorem inf_rounds {num den : Nat} (negative : Bool) (positive : 0 < den)
    (great : f.largest < f.nearest num den) :
    Rounds (.inf negative : Binary f) (signed negative num / den / 2 ^ f.unitExponent) := by
  have nonzero : 0 < num := by
    by_contra none
    obtain rfl : num = 0 := by omega
    rw [nearest_zero positive] at great
    omega
  refine ⟨fun small => ?_, fun _ => ?_⟩
  · exact absurd ((abs_rounded_le_iff negative num positive).mp small) great.not_ge
  · rw [quotient_negative f negative nonzero positive]

theorem round_rounds (negative : Bool) (num : Nat) {den : Nat} (positive : 0 < den) :
    Rounds (round negative num den : Binary f) (signed negative num / den / 2 ^ f.unitExponent) := by
  obtain ⟨mantissa, exponent, made, units, canonical⟩ := round_eq_make (f := f) negative num positive
  obtain small | great := le_or_gt (f.nearest num den) f.largest
  · have within := (abs_rounded_le_iff negative num positive).mpr small
    refine ⟨fun _ => ?_, fun beyond => absurd within beyond.not_ge⟩
    rw [made, rounded_quotient negative num positive, ← units]
    simp [make, canonical.mpr small, isFinite, value]
  · have noncanonical : ¬ f.Canonical mantissa exponent := fun found => great.not_ge (canonical.mp found)
    rw [made, make, dif_neg noncanonical]
    exact inf_rounds negative positive great

/-- An exact value no greater than some finite number is rounded to a finite number no greater either. -/
theorem Rounds.of_abs_le {x : Binary f} {y : ℚ} (rounds : Rounds x y) {z : Binary f}
    (finite : z.isFinite = true) (le : |y| ≤ z.value) :
    x.isFinite = true ∧ x.value = f.rounded y ∧ |f.rounded y| ≤ z.value := by
  have bound : |f.rounded y| ≤ z.value := by
    obtain ⟨lower, upper⟩ := abs_le.mp le
    have lower := rounded_mono (f := f) lower
    have upper := rounded_mono (f := f) upper
    rw [rounded_neg, rounded_value finite] at lower
    rw [rounded_value finite] at upper
    exact abs_le.mpr ⟨lower, upper⟩
  have within := rounds.within (bound.trans ((le_abs_self _).trans (abs_value_le finite)))
  exact ⟨within.1, within.2, bound⟩

theorem Rounds.exact {x z : Binary f} {y : ℚ} (rounds : Rounds x y) (finite : z.isFinite = true)
    (same : y = z.value) : x.isFinite = true ∧ x.value = z.value := by
  have within := rounds.within
  rw [same, rounded_value finite] at within
  exact within (abs_value_le finite)

theorem zero_rounds (negative : Bool) : Rounds (zero negative : Binary f) 0 := by
  have canonical : f.Canonical 0 0 := ⟨by positivity, Nat.zero_le _, .inl rfl⟩
  have finite : (Binary.finite negative 0 0 canonical).isFinite = true := rfl
  have value_eq : (Binary.finite negative 0 0 canonical).value = 0 := by simp [value, signed_cast]
  have rounded_eq := rounded_value finite
  rw [value_eq] at rounded_eq
  have made : (zero negative : Binary f) = .finite negative 0 0 canonical := dif_pos canonical
  rw [made]
  refine ⟨fun _ => ⟨finite, value_eq.trans rounded_eq.symm⟩, fun great => ?_⟩
  have greatest_nonneg := abs_value_le finite
  rw [value_eq] at greatest_nonneg
  rw [rounded_eq] at great
  exact absurd greatest_nonneg great.not_ge

theorem add_rounds {a b : Binary f} (finite : a.isFinite = true) (finite' : b.isFinite = true) :
    Rounds (a + b) (a.value + b.value) := by
  obtain ⟨s, m, d, _, rfl⟩ := exists_finite finite
  obtain ⟨t, n, e, _, rfl⟩ := exists_finite finite'
  change Rounds (Binary.add _ _) _
  simp only [Binary.add, value, ← add_div]
  rw [← Int.cast_add]
  generalize signed s (m * 2 ^ d) + signed t (n * 2 ^ e) = sum
  split
  · rename_i cancelled
    simpa [cancelled] using zero_rounds (f := f) (s && t)
  · have rounds := round_rounds (f := f) (sum < 0) sum.natAbs one_pos
    have sign : signed (sum < 0) sum.natAbs = sum := by
      obtain negative | nonneg := lt_or_ge sum 0
      · rw [signed, if_pos (by simpa using negative)]
        omega
      · rw [signed, if_neg (by simpa using nonneg)]
        omega
    rw [sign, Nat.cast_one, div_one] at rounds
    exact rounds

theorem mul_rounds {a b : Binary f} (finite : a.isFinite = true) (finite' : b.isFinite = true) :
    Rounds (a * b) (a.value * b.value) := by
  obtain ⟨s, m, d, _, rfl⟩ := exists_finite finite
  obtain ⟨t, n, e, _, rfl⟩ := exists_finite finite'
  have exact : (signed s (m * 2 ^ d) / 2 ^ f.unitExponent * (signed t (n * 2 ^ e) / 2 ^ f.unitExponent) : ℚ) =
      signed (s != t) (m * 2 ^ d * (n * 2 ^ e)) / (2 ^ f.unitExponent : Nat) / 2 ^ f.unitExponent := by
    rw [signed_mul]
    push_cast
    field_simp
  simp only [value]
  rw [exact]
  exact round_rounds (s != t) _ (Nat.two_pow_pos _)

theorem div_rounds {a b : Binary f} (finite : a.isFinite = true) (finite' : b.isFinite = true)
    (nonzero : b.value ≠ 0) : Rounds (a / b) (a.value / b.value) := by
  obtain ⟨s, m, d, _, rfl⟩ := exists_finite finite
  obtain ⟨t, n, e, _, rfl⟩ := exists_finite finite'
  have divisor : n ≠ 0 := by
    rintro rfl
    simp [value, signed_cast] at nonzero
  have positive : 0 < n * 2 ^ e := Nat.mul_pos (by omega) (Nat.two_pow_pos e)
  have exact : (signed s (m * 2 ^ d) / 2 ^ f.unitExponent / (signed t (n * 2 ^ e) / 2 ^ f.unitExponent) : ℚ) =
      signed (s != t) (m * 2 ^ d * 2 ^ f.unitExponent) / (n * 2 ^ e : Nat) / 2 ^ f.unitExponent := by
    cases s <;> cases t <;> simp [signed_cast] <;> field_simp
  change Rounds (Binary.div _ _) _
  simp only [Binary.div, value, if_neg divisor]
  rw [exact]
  exact round_rounds (s != t) _ positive

theorem ofNat_rounds (n : Nat) : Rounds (Binary.ofNat n : Binary f) n := by
  have exact : (n : ℚ) = signed false (n * 2 ^ f.unitExponent) / (1 : Nat) / 2 ^ f.unitExponent := by
    rw [signed_cast]
    push_cast
    field_simp
  rw [exact]
  exact round_rounds false _ one_pos

theorem zero_rounds_of_rounded {y : ℚ} (nothing : f.rounded y = 0) (negative : Bool) :
    Rounds (zero negative : Binary f) y := by
  have canonical : f.Canonical 0 0 := ⟨by positivity, Nat.zero_le _, .inl rfl⟩
  have made : (zero negative : Binary f) = .finite negative 0 0 canonical := dif_pos canonical
  constructor
  · intro _
    rw [made, nothing]
    exact ⟨rfl, by simp [value, signed_cast]⟩
  · intro great
    rw [nothing, abs_zero] at great
    exact absurd (by unfold greatest; positivity) great.not_ge

theorem ofDecimal_rounds (negative : Bool) (digits : Nat) (exponent : Int) :
    Rounds (ofDecimal negative digits exponent : Binary f) (signed negative digits * 10 ^ exponent) := by
  cases exponent with
  | ofNat e =>
    have exact : (signed negative digits * 10 ^ Int.ofNat e : ℚ) =
        signed negative (digits * 10 ^ e * 2 ^ f.unitExponent) / (1 : Nat) / 2 ^ f.unitExponent := by
      rw [Int.ofNat_eq_natCast, zpow_natCast, signed_scale, signed_scale]
      push_cast
      field_simp
    rw [exact]
    unfold ofDecimal
    dsimp only
    split
    next zero => simpa [zero, signed_cast] using zero_rounds (f := f) negative
    next nonzero =>
      split
      next great =>
        refine inf_rounds negative one_pos (Format.largest_lt_nearest ?_)
        calc
          2 ^ (f.precision + f.topExponent) ≤ 2 ^ (digits.log2 + 3 * e + f.unitExponent) :=
            Nat.pow_le_pow_right two_pos great
          _ = 2 ^ digits.log2 * (2 ^ 3) ^ e * 2 ^ f.unitExponent := by
            rw [Nat.pow_add, Nat.pow_add, Nat.pow_mul]
          _ ≤ digits * 10 ^ e * 2 ^ f.unitExponent := by
            gcongr
            · exact Nat.log2_self_le nonzero
            · decide
      next => exact round_rounds negative _ one_pos
  | negSucc e =>
    have exact : (signed negative digits * 10 ^ Int.negSucc e : ℚ) =
        signed negative (digits * 2 ^ f.unitExponent) / (10 ^ (e + 1) : Nat) / 2 ^ f.unitExponent := by
      rw [zpow_negSucc, signed_scale]
      push_cast
      field_simp
    rw [exact]
    unfold ofDecimal
    dsimp only
    split
    next tiny =>
      refine zero_rounds_of_rounded ?_ negative
      have small : 2 * (digits * 2 ^ f.unitExponent) < 10 ^ (e + 1) :=
        calc
          2 * (digits * 2 ^ f.unitExponent) < 2 * (2 ^ (digits.log2 + 1) * 2 ^ f.unitExponent) := by
            gcongr
            exact Nat.lt_log2_self
          _ = 2 ^ (digits.log2 + f.unitExponent + 2) := by ring
          _ ≤ 2 ^ (3 * (e + 1)) := Nat.pow_le_pow_right two_pos tiny
          _ = (2 ^ 3) ^ (e + 1) := Nat.pow_mul ..
          _ ≤ 10 ^ (e + 1) := Nat.pow_le_pow_left (by decide) _
      rw [rounded_quotient negative _ (by positivity), Format.nearest_of_lt_half small]
      simp [signed]
    next => exact round_rounds negative _ (by positivity)

theorem convert_rounds (g : Format) {a : Binary f} (finite : a.isFinite = true) :
    Rounds (a.convert g) a.value := by
  obtain ⟨s, m, d, _, rfl⟩ := exists_finite finite
  have exact : (signed s (m * 2 ^ d) / 2 ^ f.unitExponent : ℚ) =
      signed s (m * 2 ^ d * 2 ^ g.unitExponent) / (2 ^ f.unitExponent : Nat) / 2 ^ g.unitExponent := by
    cases s <;> simp [signed_cast] <;> field_simp
  simp only [value]
  rw [exact]
  exact round_rounds s _ (Nat.two_pow_pos _)

theorem Rounds.of_fits {x : Binary f} {negative : Bool} {units : Nat}
    (rounds : Rounds x (signed negative units / 2 ^ f.unitExponent)) (fits : f.Fits units)
    (small : units ≤ f.largest) :
    x.isFinite = true ∧ x.value = signed negative units / 2 ^ f.unitExponent := by
  have within := rounds.within
  rw [rounded_of_fits negative fits] at within
  refine within ?_
  rw [abs_div, abs_signed, abs_of_pos (by positivity), greatest]
  gcongr

theorem single_error (y : ℚ) : |Format.single.rounded y - y| ≤ |y| / 2 ^ 24 + 1 / 2 / 2 ^ 149 :=
  rounded_error y

theorem single_ofNat {n : Nat} (fits : n < 2 ^ 24) :
    (Binary.ofNat n : Single).isFinite = true ∧ (Binary.ofNat n : Single).value = n := by
  have exact : (n : ℚ) = signed false (n * 2 ^ 149) / 2 ^ Format.single.unitExponent := by
    have unit : Format.single.unitExponent = 149 := rfl
    simp only [signed_cast, unit, Bool.false_eq_true, if_false, Nat.cast_mul, Nat.cast_pow, Nat.cast_two]
    field_simp
  have rounds := ofNat_rounds (f := .single) n
  rw [exact] at rounds ⊢
  exact rounds.of_fits ⟨n, 149, fits, rfl⟩ (le_largest fits (by decide))

/-- A format that is wider, finer and longer than another has all its numbers. -/
theorem convert_wider {g : Format} (precision : f.precision ≤ g.precision)
    (unit : f.unitExponent ≤ g.unitExponent)
    (top : f.topExponent + (g.unitExponent - f.unitExponent) ≤ g.topExponent) {x : Binary f}
    (finite : x.isFinite = true) : (x.convert g).isFinite = true ∧ (x.convert g).value = x.value := by
  have rounds := convert_rounds g finite
  obtain ⟨negative, mantissa, exponent, canonical, rfl⟩ := exists_finite finite
  have exact : (Binary.finite negative mantissa exponent canonical).value =
      signed negative (mantissa * 2 ^ (exponent + (g.unitExponent - f.unitExponent))) /
        2 ^ g.unitExponent := by
    have units : (2 : ℚ) ^ g.unitExponent = 2 ^ f.unitExponent * 2 ^ (g.unitExponent - f.unitExponent) := by
      rw [← pow_add, Nat.add_sub_cancel' unit]
    rw [value, units, Nat.pow_add, ← Nat.mul_assoc, signed_scale negative (mantissa * 2 ^ exponent),
      Nat.cast_pow, Nat.cast_two, mul_div_mul_right _ _ (by positivity)]
  rw [exact] at rounds ⊢
  have width : mantissa < 2 ^ g.precision :=
    canonical.1.trans_le (Nat.pow_le_pow_right two_pos precision)
  have exponents := canonical.2.1
  exact rounds.of_fits ⟨mantissa, _, width, rfl⟩ (le_largest width (by omega))

theorem convert_double {x : Single} (finite : x.isFinite = true) :
    (x.convert .double).isFinite = true ∧ (x.convert .double).value = x.value :=
  convert_wider (by decide) (by decide) (by decide) finite

theorem convert_single_of_value {x : Single} (finite : x.isFinite = true) {y : Double}
    (finite' : y.isFinite = true) (same : y.value = x.value) :
    (y.convert .single).isFinite = true ∧ (y.convert .single).value = x.value :=
  (convert_rounds .single finite').exact finite same

theorem scaled_eq {x : Binary f} (finite : x.isFinite = true) :
    ∃ units : Int, x.scaled = some units ∧ x.value = units / 2 ^ f.unitExponent := by
  obtain ⟨negative, mantissa, exponent, canonical, rfl⟩ := exists_finite finite
  exact ⟨_, rfl, rfl⟩

theorem le_iff_value {a b : Binary f} (finite : a.isFinite = true) (finite' : b.isFinite = true) :
    a ≤ b ↔ a.value ≤ b.value := by
  obtain ⟨m, scaled, value⟩ := scaled_eq finite
  obtain ⟨n, scaled', value'⟩ := scaled_eq finite'
  rw [le_def, scaled, scaled', value, value', div_le_div_iff_of_pos_right (by positivity), Int.cast_le]
  simp

theorem lt_iff_value {a b : Binary f} (finite : a.isFinite = true) (finite' : b.isFinite = true) :
    a < b ↔ a.value < b.value := by
  obtain ⟨m, scaled, value⟩ := scaled_eq finite
  obtain ⟨n, scaled', value'⟩ := scaled_eq finite'
  rw [lt_def, scaled, scaled', value, value', div_lt_div_iff_of_pos_right (by positivity), Int.cast_lt]
  simp

theorem value_of_numEq {a b : Binary f} (same : a.numEq b = true) (finite : b.isFinite = true) :
    a.isFinite = true ∧ a.value = b.value := by
  obtain ⟨negative, mantissa, exponent, canonical, rfl⟩ := exists_finite finite
  have below := canonical.lt_infinity
  cases a with
  | nan => simp [numEq, scaled] at same
  | inf negative' =>
    have same : signed negative' (2 ^ (f.precision + f.topExponent)) =
        signed negative (mantissa * 2 ^ exponent) := by simpa [numEq, scaled] using same
    have magnitude := congrArg Int.natAbs same
    rw [natAbs_signed, natAbs_signed] at magnitude
    omega
  | finite negative' mantissa' exponent' canonical' =>
    have same : signed negative' (mantissa' * 2 ^ exponent') =
        signed negative (mantissa * 2 ^ exponent) := by simpa [numEq, scaled] using same
    exact ⟨rfl, by rw [value, value, same]⟩

theorem value_nonpos {mantissa exponent : Nat} (canonical : f.Canonical mantissa exponent) :
    (Binary.finite true mantissa exponent canonical).value ≤ 0 := by
  rw [value, signed_cast, if_pos rfl, neg_div, neg_nonpos]
  positivity

theorem floorNat_eq_floor (bound : Nat) {x : Binary f} (finite : x.isFinite = true) :
    x.floorNat bound = min bound ⌊x.value⌋₊ := by
  obtain ⟨negative, mantissa, exponent, canonical, rfl⟩ := exists_finite finite
  cases negative with
  | false =>
    have floor := Nat.floor_div_eq_div (K := ℚ) (mantissa * 2 ^ exponent) (2 ^ f.unitExponent)
    push_cast at floor
    simp [floorNat, value, signed_cast, floor]
  | true =>
    simp [floorNat, Nat.floor_of_nonpos (value_nonpos canonical)]

end SpinnerRemote.Binary
