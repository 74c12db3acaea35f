import SpinnerRemote.Proofs.Binary.Bounds
import SpinnerRemote.Proofs.Control.Floor

/-!
Where the law leaves the finite numbers. With the default limits and settings in range each step of it is
bounded by a power of two as long as the sample is finite: the root sees to that. So the radius is infinite
exactly if the sample is, to the side that turns the radius up, and the trim leaves a radius to bend.

A tilt in G is scaled to a sample. `greatestTilt` is the last one of which that gives a finite number.
-/
namespace SpinnerRemote.Control
open Binary

theorem standardGravity_bounds :
    standardGravity.isFinite = true ∧ 2 ≤ standardGravity.value ∧ standardGravity.value ≤ 2 ^ 4 := by
  decide +kernel

theorem tiltGain_bounds : tiltGain.isFinite = true ∧ 0 < tiltGain.value ∧ tiltGain.value ≤ 2 ^ 0 := by
  decide +kernel

/-! Tilts in G. -/

/-- The greatest tilt that is finite in metres per second squared, `3.4722687e37` G. -/
def greatestTilt : Single := .finite false 13695685 250 (by decide)

theorem scaled_mono {g h : Single} (le : g ≤ h) : g * standardGravity ≤ h * standardGravity := by
  obtain ⟨finite, above, -⟩ := standardGravity_bounds
  exact Binary.mul_le_mul_right finite (by linarith) le

def overTilt : Single := .finite false (13695685 + 1) 250 (by decide)

theorem scaled_of_over {g : Single} (beyond : overTilt ≤ g) : g * standardGravity = .inf false := by
  have overflows : overTilt * standardGravity = .inf false := by decide +kernel
  have product := scaled_mono beyond
  rw [overflows] at product
  exact eq_inf_of_ge product

theorem scaled_of_under {g : Single} (under : g ≤ -overTilt) : g * standardGravity = .inf true := by
  have overflows : -overTilt * standardGravity = .inf true := by decide +kernel
  have product := scaled_mono under
  rw [overflows] at product
  exact eq_inf_of_le product

theorem scaled_between {g : Single} (above : -greatestTilt ≤ g) (below : g ≤ greatestTilt) :
    (g * standardGravity).isFinite = true := by
  have least : (-greatestTilt * standardGravity).isFinite = true := by decide +kernel
  have greatest : (greatestTilt * standardGravity).isFinite = true := by decide +kernel
  have le := scaled_mono above
  have le' := scaled_mono below
  refine (isFinite_of_le le ?_ ?_).2
  · intro infinite
    rw [infinite] at least
    cases least
  · intro infinite
    rw [infinite] at le'
    rw [eq_inf_of_ge le'] at greatest
    cases greatest

section
variable {g : Single} (number : g.isNaN = false)
include number

theorem le_greatestTilt_or : g ≤ greatestTilt ∨ overTilt ≤ g := le_or_next_le _ _ number

theorem neg_greatestTilt_le_or : -greatestTilt ≤ g ∨ g ≤ -overTilt := by
  have mirrored : (-g).isNaN = false := by
    cases g <;> first | rfl | cases number
  refine (le_greatestTilt_or mirrored).imp (fun le => ?_) (fun le => ?_) <;>
    simpa only [Binary.neg_neg] using Binary.neg_le_neg le

theorem greatestTilt_lt_iff : greatestTilt < g ↔ overTilt ≤ g := by
  have apart : ¬overTilt ≤ greatestTilt := by decide +kernel
  rw [← not_iff_not, not_lt_iff rfl number]
  constructor
  · intro le beyond
    exact apart (Binary.le_trans beyond le)
  · exact (le_greatestTilt_or number).resolve_right

theorem scaled_isFinite_iff :
    (g * standardGravity).isFinite = true ↔ -greatestTilt ≤ g ∧ g ≤ greatestTilt := by
  constructor
  · intro finite
    constructor
    · refine (neg_greatestTilt_le_or number).resolve_right fun under => ?_
      rw [scaled_of_under under] at finite
      cases finite
    · refine (le_greatestTilt_or number).resolve_right fun beyond => ?_
      rw [scaled_of_over beyond] at finite
      cases finite
  · rintro ⟨above, below⟩
    exact scaled_between above below

theorem scaled_eq_inf_iff : g * standardGravity = .inf false ↔ greatestTilt < g := by
  rw [greatestTilt_lt_iff number]
  constructor
  · intro infinite
    refine (le_greatestTilt_or number).resolve_left fun below => ?_
    have product := scaled_mono below
    rw [infinite] at product
    have greatest : greatestTilt * standardGravity ≠ .inf false := by decide +kernel
    exact greatest (eq_inf_of_ge product)
  · exact scaled_of_over

end

/-! The trim. -/

theorem fineTrimmed {radius fine : Single} (finite : radius.isFinite = true) (nonneg : 0 ≤ radius.value)
    (bounded : |radius.value| ≤ 2 ^ 5) (finite' : fine.isFinite = true) (half : |fine.value| ≤ 1 / 2) :
    (radius + radius * fine).isFinite = true ∧ |(radius + radius * fine).value| ≤ 2 ^ 6 ∧
      0 ≤ (radius + radius * fine).value ∧ (radius.value = 0 → (radius + radius * fine).value = 0) ∧
      (1 / 100 ≤ radius.value → 0 < (radius + radius * fine).value) := by
  have most : |fine.value| ≤ 2 ^ 0 := by
    rw [pow_zero]
    linarith
  obtain ⟨bend, bend_value, bend_le⟩ := single_mul finite finite' bounded most (by decide)
  obtain ⟨sum, sum_value, sum_le⟩ := single_add finite bend bounded bend_le (by decide)
  have product : |radius.value * fine.value| ≤ radius.value / 2 := by
    rw [abs_mul, abs_of_nonneg nonneg]
    linarith [mul_le_mul_of_nonneg_left half nonneg]
  have bend_ge : -radius.value ≤ (radius * fine).value := by
    have low : -radius.value ≤ radius.value * fine.value := by linarith [(abs_le.mp product).1]
    have rounded := Format.rounded_mono (f := .single) low
    rwa [Format.rounded_neg, Format.rounded_value finite, ← bend_value] at rounded
  refine ⟨sum, sum_le, ?_, fun zero => ?_, fun positive => ?_⟩
  · rw [sum_value]
    exact Format.rounded_nonneg _ (by linarith)
  · rw [zero, zero_mul, rounded_zero] at bend_value
    rw [sum_value, zero, bend_value, add_zero, rounded_zero]
  · -- Both roundings are off by far less than what the fine trim leaves.
    have unit : (1 / 2 / 2 ^ 149 : ℚ) ≤ 1 / 2 ^ 24 := by norm_num
    have second := single_error (radius.value * fine.value)
    have third := single_error (radius.value + (radius * fine).value)
    rw [← bend_value] at second
    rw [← sum_value] at third
    have bend_ge : -(radius.value * 3 / 4) ≤ (radius * fine).value := by
      linarith [(abs_le.mp product).1, (abs_le.mp second).1]
    rw [abs_of_pos (by linarith : 0 < radius.value + (radius * fine).value), abs_le] at third
    linarith

section
variable {settings : ControlSettings} (inRange : settings.InRange)
include inRange

theorem trim_value :
    settings.trim.isFinite = true ∧ 0 ≤ settings.trim.value ∧ settings.trim.value ≤ 1 ∧
      (0 < settings.trim → 1 / 1024 ≤ settings.trim.value) := by
  obtain ⟨position, onSlider, trim⟩ := inRange.trim
  obtain ⟨finite, rounded, part⟩ := ControlSettings.sliderFraction_value onSlider
  have near := abs_le.mp (ControlSettings.sliderFraction_near onSlider)
  have nonneg := ControlSettings.sliderFraction_nonneg onSlider
  rw [trim]
  refine ⟨finite, nonneg, (abs_le.mp part).2, fun positive => ?_⟩
  have above := (single_pos_iff finite).mp positive
  rw [rounded] at above
  have moved : 1 ≤ position := by
    by_contra start
    obtain rfl : position = 0 := by omega
    rw [Nat.cast_zero, zero_div, rounded_zero] at above
    exact above.false
  have moved : (1 : ℚ) ≤ position := by exact_mod_cast moved
  linarith

theorem fine_value : settings.fine.isFinite = true ∧ |settings.fine.value| ≤ 1 / 2 := by
  have half : (0.5 : Single).isFinite = true ∧ (0.5 : Single).value = 1 / 2 := by decide +kernel
  have span : fineTrimSpan.isFinite = true ∧ |fineTrimSpan.value| ≤ 1 := by decide +kernel
  obtain ⟨position, onSlider, fine⟩ := inRange.fine
  obtain ⟨share, -, part⟩ := ControlSettings.sliderFraction_value onSlider
  have nonneg := ControlSettings.sliderFraction_nonneg onSlider
  obtain ⟨offset, offset_value, within⟩ := (sub_rounds share half.1).of_abs_le half.1 (by
    have most := (abs_le.mp part).2
    rw [half.2, abs_le]
    constructor <;> linarith)
  rw [← offset_value, half.2] at within
  obtain ⟨finite, value, within⟩ := (mul_rounds offset span.1).of_abs_le half.1 (by
    rw [half.2, abs_mul, ← mul_one (1 / 2 : ℚ)]
    exact mul_le_mul within span.2 (abs_nonneg _) (by norm_num))
  rw [fine]
  rw [← value, half.2] at within
  exact ⟨finite, within⟩

/-- The trim radius is positive exactly with the trim, whatever the fine trim is. -/
theorem trimRadius_value :
    (trimRadius 20 settings.trim settings.fine).isFinite = true ∧
      |(trimRadius 20 settings.trim settings.fine).value| ≤ 2 ^ 6 ∧
      0 ≤ (trimRadius 20 settings.trim settings.fine).value ∧
      (0 < (trimRadius 20 settings.trim settings.fine).value ↔ 0 < settings.trim) := by
  obtain ⟨trim, trim_nonneg, trim_le, moved⟩ := trim_value inRange
  obtain ⟨fine, half⟩ := fine_value inRange
  have twenty : (20 : Single).isFinite = true ∧ (20 : Single).value = 20 := single_ofNat (by decide)
  have whole : |settings.trim.value| ≤ 2 ^ 0 := by rwa [abs_of_nonneg trim_nonneg, pow_zero]
  obtain ⟨radius, radius_value, radius_le⟩ := single_mul (j := 5) twenty.1 trim (by rw [twenty.2]; norm_num)
    whole (by decide)
  rw [twenty.2] at radius_value
  have radius_nonneg : 0 ≤ (20 * settings.trim).value := by
    rw [radius_value]
    exact Format.rounded_nonneg _ (by positivity)
  obtain ⟨finite, bounded, nonneg, nothing, something⟩ := fineTrimmed radius radius_nonneg radius_le fine half
  refine ⟨finite, bounded, nonneg, fun positive => ?_, fun positive => something ?_⟩
  · rw [single_pos_iff trim]
    refine lt_of_le_of_ne trim_nonneg fun untrimmed => positive.ne' (nothing ?_)
    rw [radius_value, ← untrimmed, mul_zero, rounded_zero]
  · have share := moved positive
    have first := single_error (20 * settings.trim.value)
    rw [← radius_value, abs_of_pos (by linarith : 0 < 20 * settings.trim.value), abs_le] at first
    have unit : (1 / 2 / 2 ^ 149 : ℚ) ≤ 1 / 2 ^ 24 := by norm_num
    linarith

end

/-! Bending. -/

theorem steerFactor_bounded {tilt : Single} (finite : tilt.isFinite = true) :
    (steerFactor tilt).isFinite = true ∧ |(steerFactor tilt).value| ≤ 2 ^ 64 := by
  unfold steerFactor
  split
  next positive => exact single_sqrt finite ((single_pos_iff finite).mp positive).le
  next nonpos =>
    have below : tilt.value ≤ 0 := not_lt.mp ((single_pos_iff finite).not.mp nonpos)
    obtain ⟨mirrored, mirrored_value⟩ := neg_value finite
    obtain ⟨root, within⟩ := single_sqrt mirrored (by rw [mirrored_value]; linarith)
    obtain ⟨finite, value⟩ := neg_value root
    exact ⟨finite, by rwa [value, abs_neg]⟩

section
variable {radius : Single} (finite : radius.isFinite = true)
include finite

theorem applyTilt_isFinite (bounded : |radius.value| ≤ 2 ^ 6) {sample : AccelSample}
    (finite' : sample.y.isFinite = true) : (applyTilt radius sample).isFinite = true := by
  obtain ⟨gravity, heavy, -⟩ := standardGravity_bounds
  obtain ⟨gain, gain_pos, gain_le⟩ := tiltGain_bounds
  have rounds := div_rounds finite' gravity (by linarith)
  have quotient : |sample.y.value / standardGravity.value| ≤ 2 ^ 127 := by
    rw [abs_div, abs_of_pos (by linarith : 0 < standardGravity.value), div_le_iff₀ (by linarith)]
    linarith [single_abs_le finite']
  obtain ⟨tilt, -, -⟩ := rounds.within_twoPow le_rfl quotient
  -- The root halves the exponent of what is left, so there is room for the products.
  obtain ⟨steer, steer_le⟩ := steerFactor_bounded tilt
  obtain ⟨bend, -, bend_le⟩ := single_mul finite steer bounded steer_le (by decide)
  obtain ⟨bend, -, bend_le⟩ := single_mul bend gain bend_le (by rwa [abs_of_pos gain_pos]) (by decide)
  exact (single_add finite bend (bounded.trans (by norm_num)) bend_le (by decide)).1

/-- An infinite sample leaves nothing of a radius but its side, and of no radius no number. -/
theorem applyTilt_inf (nonneg : 0 ≤ radius.value) {sample : AccelSample} {negative : Bool}
    (infinite : sample.y = .inf negative) :
    applyTilt radius sample = if 0 < radius.value then .inf negative else .nan := by
  have steer : steerFactor ((.inf negative : Single) / standardGravity) = .inf negative := by
    cases negative <;> decide +kernel
  obtain ⟨gain, gain_pos, -⟩ := tiltGain_bounds
  obtain ⟨sign, mantissa, exponent, canonical, rfl⟩ := exists_finite finite
  have product : (Binary.finite sign mantissa exponent canonical * .inf negative : Single) =
      if mantissa = 0 then .nan else .inf (sign != negative) := rfl
  rw [applyTilt, infinite, steer, product]
  by_cases zero : mantissa = 0
  · have nothing : (Binary.finite sign mantissa exponent canonical).value = 0 := value_eq_zero_iff.mpr zero
    rw [if_pos zero, nothing, if_neg (lt_irrefl 0)]
    rfl
  · obtain rfl : sign = false := (value_nonneg_iff.mp nonneg).resolve_right zero
    have positive := lt_of_le_of_ne nonneg fun same => zero (value_eq_zero_iff.mp same.symm)
    rw [if_neg zero, if_pos positive, Bool.false_bne, inf_mul gain gain_pos]
    rfl

theorem applyTilt_nan {sample : AccelSample} (undefined : sample.y = .nan) :
    applyTilt radius sample = .nan := by
  have steer : steerFactor ((.nan : Single) / standardGravity) = .nan := by decide +kernel
  obtain ⟨sign, mantissa, exponent, canonical, rfl⟩ := exists_finite finite
  rw [applyTilt, undefined, steer]
  rfl

end

/-- Tilt steering of some radius by a sample that is infinite to the side that turns it up. -/
def Overdriven (settings : ControlSettings) (sample : Option AccelSample) : Prop :=
  settings.tiltSteer = true ∧ 0 < settings.trim ∧ ∃ measured, sample = some measured ∧ measured.y = .inf false

theorem bentRadius_eq_inf_iff {settings : ControlSettings} (inRange : settings.InRange)
    (sample : Option AccelSample) : bentRadius {} settings sample = .inf false ↔ Overdriven settings sample := by
  obtain ⟨finite, bounded, nonneg, positive⟩ := trimRadius_value inRange
  have bounds : ({} : RadiusLimits).max = 20 := rfl
  have ne_inf {radius : Single} (finite : radius.isFinite = true) : radius ≠ .inf false := by
    rintro rfl
    cases finite
  unfold bentRadius Overdriven
  rw [bounds]
  cases sample with
  | none => simp [ne_inf finite]
  | some measured =>
    cases settings.tiltSteer with
    | false => simp [ne_inf finite]
    | true =>
      cases component : measured.y with
      | nan => simp [applyTilt_nan finite component, component]
      | inf negative =>
        simp only [applyTilt_inf finite nonneg component, positive, if_true]
        by_cases trimmed : 0 < settings.trim <;> simp [trimmed, component]
      | finite =>
        have finite' : measured.y.isFinite = true := by
          rw [component]
          rfl
        have bent := applyTilt_isFinite finite bounded finite'
        simp [ne_inf bent, component]

/-- The radius of a tick is finite, unless it is overdriven: then it is the greatest of all. -/
theorem radius_cases {settings : ControlSettings} (inRange : settings.InRange) (sample : Option AccelSample) :
    Overdriven settings sample ∧ radius {} settings sample = .inf false ∨
      ¬Overdriven settings sample ∧ (radius {} settings sample).isFinite = true := by
  have floor : ({} : RadiusLimits).min.isFinite = true := by decide
  rw [radius_eq_max, ← bentRadius_eq_inf_iff inRange]
  exact max_cases floor

end SpinnerRemote.Control
