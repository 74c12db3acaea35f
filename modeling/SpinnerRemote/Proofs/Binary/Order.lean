import SpinnerRemote.Proofs.Binary.Rounds

/-!
The order of all numbers of a format, with the infinities at its ends and NaN outside of it. Rounding is
monotone on it, and so is whatever ends in one rounding: multiplication with a positive number, and the
nearest natural number.

A maximum with a number is a number, and no less than it: `Binary.le_max_right`.
-/
namespace SpinnerRemote.Binary
open Format

/- Powers of numbers are the core library's, whatever else is in scope. -/
attribute [local instance(high)] instPowNat

variable {f : Format} {a b c : Binary f}

theorem isNaN_eq_false_iff : a.isNaN = false ↔ ∃ units, a.scaled = some units := by
  cases a <;> simp [isNaN, scaled]

theorem isNaN_of_isFinite (finite : a.isFinite = true) : a.isNaN = false := by
  cases a <;> first | rfl | cases finite

theorem scaled_finite_lt (finite : a.isFinite = true) :
    ∃ units, a.scaled = some units ∧ units.natAbs < 2 ^ (f.precision + f.topExponent) := by
  obtain ⟨negative, mantissa, exponent, canonical, rfl⟩ := exists_finite finite
  exact ⟨_, rfl, by rw [natAbs_signed]; exact canonical.lt_infinity⟩

theorem signed_not (negative : Bool) (n : Nat) : signed (!negative) n = -signed negative n := by
  cases negative <;> simp [signed]

theorem scaled_neg (a : Binary f) : (-a).scaled = a.scaled.map (-·) := by
  cases a with
  | nan => rfl
  | inf negative => exact congrArg some (signed_not negative _)
  | finite negative mantissa exponent canonical => exact congrArg some (signed_not negative _)

theorem neg_value (finite : a.isFinite = true) : (-a).isFinite = true ∧ (-a).value = -a.value := by
  obtain ⟨negative, mantissa, exponent, canonical, rfl⟩ := exists_finite finite
  have mirrored : -Binary.finite negative mantissa exponent canonical =
      .finite (!negative) mantissa exponent canonical := rfl
  rw [mirrored, value, value, signed_not, Int.cast_neg, neg_div]
  exact ⟨rfl, rfl⟩

theorem sub_rounds (finite : a.isFinite = true) (finite' : b.isFinite = true) :
    Rounds (a - b) (a.value - b.value) := by
  obtain ⟨mirrored, value⟩ := neg_value finite'
  have rounds := add_rounds finite mirrored
  rw [value, ← sub_eq_add_neg] at rounds
  exact rounds

section
variable {negative : Bool} {mantissa exponent : Nat} {canonical : f.Canonical mantissa exponent}

theorem value_eq_zero_iff : (Binary.finite negative mantissa exponent canonical).value = 0 ↔ mantissa = 0 := by
  cases negative <;> simp [value, signed_cast]

theorem value_nonneg_iff :
    0 ≤ (Binary.finite negative mantissa exponent canonical).value ↔ negative = false ∨ mantissa = 0 := by
  rw [value, le_div_iff₀ (by positivity), zero_mul, signed_cast]
  cases negative with
  | false => simp
  | true =>
    rw [if_pos rfl, neg_nonneg, Nat.cast_nonpos]
    simp

end

/-! Numbers are ordered by their units. -/

protected theorem le_refl (number : a.isNaN = false) : a ≤ a := by
  obtain ⟨units, scaled⟩ := isNaN_eq_false_iff.mp number
  exact ⟨units, scaled, units, scaled, Int.le_refl _⟩

protected theorem le_trans (first : a ≤ b) (second : b ≤ c) : a ≤ c := by
  obtain ⟨low, scaled, middle, here, le⟩ := first
  obtain ⟨middle', there, high, scaled', le'⟩ := second
  obtain rfl : middle = middle' := Option.some.inj (here.symm.trans there)
  exact ⟨low, scaled, high, scaled', Int.le_trans le le'⟩

theorem not_lt_iff (number : a.isNaN = false) (number' : b.isNaN = false) : ¬a < b ↔ b ≤ a := by
  obtain ⟨units, scaled⟩ := isNaN_eq_false_iff.mp number
  obtain ⟨units', scaled'⟩ := isNaN_eq_false_iff.mp number'
  rw [lt_def, le_def, scaled, scaled']
  simp

theorem isNaN_of_le (le : a ≤ b) : a.isNaN = false ∧ b.isNaN = false := by
  obtain ⟨low, scaled, high, scaled', -⟩ := le
  exact ⟨isNaN_eq_false_iff.mpr ⟨low, scaled⟩, isNaN_eq_false_iff.mpr ⟨high, scaled'⟩⟩

protected theorem neg_neg (a : Binary f) : - -a = a := by
  cases a with
  | nan => rfl
  | inf negative => exact congrArg _ (Bool.not_not negative)
  | finite negative mantissa exponent canonical =>
    exact congrArg (Binary.finite · mantissa exponent canonical) (Bool.not_not negative)

protected theorem neg_le_neg (le : a ≤ b) : -b ≤ -a := by
  obtain ⟨low, scaled, high, scaled', le⟩ := le
  refine ⟨-high, ?_, -low, ?_, Int.neg_le_neg le⟩
  · simp [scaled_neg, Option.mem_def.mp scaled']
  · simp [scaled_neg, Option.mem_def.mp scaled]

theorem between_infinities (number : a.isNaN = false) : .inf true ≤ a ∧ a ≤ .inf false := by
  have bounded : ∃ units, a.scaled = some units ∧
      units.natAbs ≤ 2 ^ (f.precision + f.topExponent) := by
    cases a with
    | nan => cases number
    | inf negative => exact ⟨_, rfl, by rw [natAbs_signed]⟩
    | finite =>
      obtain ⟨units, scaled, less⟩ := scaled_finite_lt (a := .finite ..) rfl
      exact ⟨units, scaled, less.le⟩
  obtain ⟨units, scaled, bound⟩ := bounded
  refine ⟨⟨_, rfl, units, scaled, ?_⟩, ⟨units, scaled, _, rfl, ?_⟩⟩ <;>
    simp only [signed, if_true, Bool.false_eq_true, if_false] <;> omega

theorem eq_inf_of_ge (le : .inf false ≤ a) : a = .inf false := by
  obtain ⟨top, scaled, units, scaled', le⟩ := le
  cases scaled
  cases a with
  | nan => cases scaled'
  | inf negative =>
    cases negative with
    | false => rfl
    | true =>
      cases scaled'
      have positive := Nat.two_pow_pos (f.precision + f.topExponent)
      simp only [signed, if_true, Bool.false_eq_true, if_false] at le
      omega
  | finite =>
    obtain ⟨units', here, less⟩ := scaled_finite_lt (a := .finite ..) rfl
    obtain rfl : units' = units := Option.some.inj (here.symm.trans scaled')
    simp only [signed, Bool.false_eq_true, if_false] at le
    omega

theorem eq_inf_of_le (le : a ≤ .inf true) : a = .inf true := by
  have mirrored : -a = .inf false := eq_inf_of_ge (Binary.neg_le_neg le)
  cases a with
  | inf negative =>
    cases negative with
    | true => rfl
    | false => cases mirrored
  | _ => cases mirrored

theorem isFinite_of_le (le : a ≤ b) (low : a ≠ .inf true) (high : b ≠ .inf false) :
    a.isFinite = true ∧ b.isFinite = true := by
  constructor
  · cases a with
    | nan => cases (isNaN_of_le le).1
    | finite => rfl
    | inf negative =>
      cases negative with
      | true => exact absurd rfl low
      | false => exact absurd (eq_inf_of_ge le) high
  · cases b with
    | nan => cases (isNaN_of_le le).2
    | finite => rfl
    | inf negative =>
      cases negative with
      | true => exact absurd (eq_inf_of_le le) low
      | false => exact absurd rfl high

theorem max_eq (number : b.isNaN = false) : max a b = if b ≤ a then a else b := by
  have chosen : max a b = if a.isNaN = true ∨ a < b then b else a := rfl
  rw [chosen]
  cases nan : a.isNaN with
  | true =>
    have apart : ¬b ≤ a := fun le => by
      rw [(isNaN_of_le le).2] at nan
      cases nan
    simp [apart]
  | false =>
    by_cases le : b ≤ a
    · simp [le, (not_lt_iff nan number).mpr le]
    · have less : a < b := not_not.mp ((not_congr (not_lt_iff nan number)).mpr le)
      simp [le, less]

protected theorem le_max_right (number : b.isNaN = false) : b ≤ max a b := by
  rw [max_eq number]
  split
  next le => exact le
  next => exact Binary.le_refl number

theorem max_cases (finite : b.isFinite = true) :
    a = .inf false ∧ max a b = .inf false ∨ a ≠ .inf false ∧ (max a b).isFinite = true := by
  have number := isNaN_of_isFinite finite
  rw [max_eq number]
  by_cases top : a = .inf false
  · rw [top, if_pos (between_infinities number).2]
    exact .inl ⟨rfl, rfl⟩
  · refine .inr ⟨top, ?_⟩
    split
    next le =>
      refine (isFinite_of_le le ?_ top).2
      rintro rfl
      cases finite
    next => exact finite

/-! Rounding is monotone. -/

theorem rounded_nonpos {y : ℚ} (nonpos : y ≤ 0) : f.rounded y ≤ 0 := by
  have mirrored := rounded_nonneg (f := f) (-y) (by linarith)
  rw [rounded_neg] at mirrored
  linarith

theorem rounded_zero (f : Format) : f.rounded 0 = 0 :=
  le_antisymm (rounded_nonpos le_rfl) (rounded_nonneg 0 le_rfl)

theorem greatest_nonneg (f : Format) : 0 ≤ f.greatest := by
  unfold greatest
  positivity

/-- What an exact value is rounded to: a number of the format, or the infinity beyond which it lies. -/
theorem Rounds.settled {y : ℚ} (rounds : Rounds a y) :
    a.isFinite = true ∧ a.value = f.rounded y ∨ a = .inf false ∧ f.greatest < f.rounded y ∨
      a = .inf true ∧ f.rounded y < -f.greatest := by
  have end_nonneg := greatest_nonneg f
  obtain small | great := le_or_gt |f.rounded y| f.greatest
  · exact .inl (rounds.within small)
  · have beyond := rounds.beyond great
    obtain above | below := lt_abs.mp great
    · have nonneg : ¬y < 0 := fun negative => by
        have nonpos := rounded_nonpos (f := f) negative.le
        linarith
      exact .inr (.inl ⟨by rw [beyond, decide_eq_false nonneg], above⟩)
    · have negative : y < 0 := by
        by_contra nonneg
        have nonneg := rounded_nonneg (f := f) y (not_lt.mp nonneg)
        linarith
      exact .inr (.inr ⟨by rw [beyond, decide_eq_true negative], by linarith⟩)

theorem Rounds.isNaN {y : ℚ} (rounds : Rounds a y) : a.isNaN = false := by
  obtain ⟨finite, -⟩ | ⟨rfl, -⟩ | ⟨rfl, -⟩ := rounds.settled
  · exact isNaN_of_isFinite finite
  · rfl
  · rfl

theorem Rounds.mono {y z : ℚ} (rounds : Rounds a y) (rounds' : Rounds b z) (le : y ≤ z) : a ≤ b := by
  have rounded_le := rounded_mono (f := f) le
  have end_nonneg := greatest_nonneg f
  obtain ⟨finite, value⟩ | ⟨rfl, above⟩ | ⟨rfl, -⟩ := rounds.settled
  · obtain ⟨finite', value'⟩ | ⟨rfl, -⟩ | ⟨rfl, below⟩ := rounds'.settled
    · rwa [le_iff_value finite finite', value, value']
    · exact (between_infinities (isNaN_of_isFinite finite)).2
    · have within := neg_le_of_abs_le (abs_value_le finite)
      linarith
  · obtain ⟨finite', value'⟩ | ⟨rfl, -⟩ | ⟨rfl, below⟩ := rounds'.settled
    · have within := le_of_abs_le (abs_value_le finite')
      linarith
    · exact Binary.le_refl rfl
    · linarith
  · exact (between_infinities rounds'.isNaN).1

section Mul
variable (finite : c.isFinite = true) (positive : 0 < c.value)
include finite positive

theorem inf_mul (negative : Bool) : .inf negative * c = .inf negative := by
  obtain ⟨sign, mantissa, exponent, canonical, rfl⟩ := exists_finite finite
  have product : (.inf negative * .finite sign mantissa exponent canonical : Binary f) =
      if mantissa = 0 then .nan else .inf (negative != sign) := rfl
  have nonzero : mantissa ≠ 0 := value_eq_zero_iff.not.mp positive.ne'
  have sign_eq : sign = false := (value_nonneg_iff.mp positive.le).resolve_right nonzero
  rw [product, if_neg nonzero, sign_eq, Bool.bne_false]

theorem isNaN_mul (number : a.isNaN = false) : (a * c).isNaN = false := by
  cases a with
  | nan => cases number
  | inf negative =>
    rw [inf_mul finite positive]
    rfl
  | finite => exact (mul_rounds rfl finite).isNaN

/-- Multiplication with a positive number is monotone, also where it leaves the format. -/
protected theorem mul_le_mul_right (le : a ≤ b) : a * c ≤ b * c := by
  obtain ⟨number, number'⟩ := isNaN_of_le le
  have product := isNaN_mul finite positive number
  have product' := isNaN_mul finite positive number'
  by_cases low : a = .inf true
  · rw [low, inf_mul finite positive]
    exact (between_infinities product').1
  by_cases high : b = .inf false
  · rw [high, inf_mul finite positive]
    exact (between_infinities product).2
  obtain ⟨finite_a, finite_b⟩ := isFinite_of_le le low high
  refine (mul_rounds finite_a finite).mono (mul_rounds finite_b finite) ?_
  exact mul_le_mul_of_nonneg_right ((le_iff_value finite_a finite_b).mp le) positive.le

end Mul

/-! The nearest natural number. -/

theorem roundDivUp_eq_floor (num : Nat) {den : Nat} (positive : 0 < den) :
    roundDivUp num den = ⌊(num / den + 1 / 2 : ℚ)⌋₊ := by
  have floor := Nat.floor_div_eq_div (K := ℚ) (2 * num + den) (2 * den)
  have share : ((2 * num + den : Nat) / (2 * den : Nat) : ℚ) = num / den + 1 / 2 := by
    push_cast
    field_simp
  rw [roundDivUp, ← floor, share]

theorem nearestNat_eq_floor (bound : Nat) (finite : a.isFinite = true) :
    a.nearestNat bound = min bound ⌊a.value + 1 / 2⌋₊ := by
  obtain ⟨negative, mantissa, exponent, canonical, rfl⟩ := exists_finite finite
  cases negative with
  | false =>
    have floor := roundDivUp_eq_floor (mantissa * 2 ^ exponent) (Nat.two_pow_pos f.unitExponent)
    simp [nearestNat, floor, value, signed_cast]
  | true =>
    have nonpos := value_nonpos canonical
    have nothing : ⌊(Binary.finite true mantissa exponent canonical).value + 1 / 2⌋₊ = 0 :=
      Nat.floor_eq_zero.mpr (by linarith)
    rw [nothing, Nat.min_zero]
    rfl

theorem nearestNat_le (bound : Nat) (a : Binary f) : a.nearestNat bound ≤ bound := by
  cases a with
  | nan => exact Nat.zero_le _
  | inf negative => cases negative <;> simp [nearestNat]
  | finite =>
    rw [nearestNat_eq_floor bound rfl]
    exact min_le_left _ _

theorem nearestNat_mono (bound : Nat) (le : a ≤ b) : a.nearestNat bound ≤ b.nearestNat bound := by
  by_cases low : a = .inf true
  · rw [low]
    exact Nat.zero_le _
  by_cases high : b = .inf false
  · rw [high]
    exact nearestNat_le bound a
  obtain ⟨finite, finite'⟩ := isFinite_of_le le low high
  rw [nearestNat_eq_floor bound finite, nearestNat_eq_floor bound finite']
  have values := (le_iff_value finite finite').mp le
  exact min_le_min_left bound (Nat.floor_mono (by linarith))

end SpinnerRemote.Binary
