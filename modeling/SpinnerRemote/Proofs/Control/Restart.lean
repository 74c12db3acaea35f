import SpinnerRemote.Proofs.Control.Session

/-!
What a restart makes of settings that were only ticked on. The heading comes back as it was. The trim
slider goes from a position to a radius and from the radius back to a position by four roundings and a
cut to a whole step: it comes back exactly where the roundings do not end below the position, and else
one step lower.
-/
namespace SpinnerRemote
open Binary Control

namespace ControlSettings

/-- Where a position of the slider comes to lie by way of its radius, before it is cut to a step. -/
def restored (max : Single) (position : Nat) : Single :=
  max * sliderFraction position / max * Binary.ofNat sliderMax

/-- The roundings between a position, its radius and the position again do not leave the step. -/
def Survives (max : Single) (position : Nat) : Prop :=
  Binary.ofNat position ≤ restored max position ∧ restored max position < Binary.ofNat (position + 1)

instance (max : Single) (position : Nat) : Decidable (Survives max position) := by
  unfold Survives
  infer_instance

variable {max : Single}

theorem share_value (finite : max.isFinite = true) {share : Single} (finite' : share.isFinite = true)
    (part : |share.value| ≤ 1) (positive : 0 < max.value) :
    (max * share).isFinite = true ∧ (max * share).value = Format.single.rounded (max.value * share.value) ∧
      |(max * share).value| ≤ max.value := by
  have bound : |max.value * share.value| ≤ max.value := by
    rw [abs_mul, abs_of_pos positive]
    exact mul_le_of_le_one_right positive.le part
  obtain ⟨finite, value, within⟩ := (mul_rounds finite finite').of_abs_le finite bound
  exact ⟨finite, value, by rwa [value]⟩

theorem trimRadius_centred {share : Single} (finite : (max * share).isFinite = true) :
    (trimRadius max share 0).isFinite = true ∧ (trimRadius max share 0).value = (max * share).value := by
  obtain ⟨zero, zero_value⟩ := single_ofNat (n := 0) (by decide)
  obtain ⟨bend, bend_value⟩ := (mul_rounds finite zero).exact zero (by rw [zero_value]; simp)
  exact (add_rounds finite bend).exact finite (by rw [bend_value, zero_value]; simp)

theorem quotient_value (finite : max.isFinite = true) (positive : 0 < max.value) {radius : Single}
    (finite' : radius.isFinite = true) (within : |radius.value| ≤ max.value) :
    (radius / max).isFinite = true ∧ (radius / max).value = Format.single.rounded (radius.value / max.value) ∧
      |(radius / max).value| ≤ 1 := by
  obtain ⟨one, one_value⟩ := single_ofNat (n := 1) (by decide)
  have bound : |radius.value / max.value| ≤ (Binary.ofNat 1 : Single).value := by
    rw [one_value, abs_div, abs_of_pos positive, Nat.cast_one]
    exact div_le_one_of_le₀ within positive.le
  obtain ⟨finite, value, within⟩ := (div_rounds finite' finite positive.ne').of_abs_le one bound
  rw [one_value, Nat.cast_one] at within
  exact ⟨finite, value, by rwa [value]⟩

theorem scaled_value {share : Single} (finite : share.isFinite = true) (part : |share.value| ≤ 1) :
    (share * Binary.ofNat sliderMax).isFinite = true ∧
      (share * Binary.ofNat sliderMax).value = Format.single.rounded (share.value * 1000) ∧
      |(share * Binary.ofNat sliderMax).value| ≤ 1000 := by
  obtain ⟨way, way_value⟩ := sliderMax_value
  have rounds := mul_rounds finite way
  rw [way_value] at rounds
  have bound : |share.value * 1000| ≤ (Binary.ofNat sliderMax : Single).value := by
    rw [way_value, abs_mul, abs_of_pos (by norm_num : (0 : ℚ) < 1000)]
    linarith
  obtain ⟨finite, value, within⟩ := rounds.of_abs_le way bound
  rw [way_value] at within
  exact ⟨finite, value, by rwa [value]⟩

theorem sliderPosition_eq_floor (finite : max.isFinite = true) (positive : 0 < max.value) {radius : Single}
    (finite' : radius.isFinite = true) (within : |radius.value| ≤ max.value) :
    sliderPosition radius max = ⌊(radius / max * Binary.ofNat sliderMax).value⌋₊ ∧
      sliderPosition radius max ≤ sliderMax := by
  obtain ⟨share, -, part⟩ := quotient_value finite positive finite' within
  obtain ⟨onScale, -, bound⟩ := scaled_value share part
  have floor : ⌊(radius / max * Binary.ofNat sliderMax).value⌋₊ ≤ sliderMax :=
    Nat.floor_le_of_le ((le_abs_self _).trans bound)
  rw [sliderPosition, floorNat_eq_floor _ onScale, min_eq_right (floor.trans (by decide))]
  exact ⟨rfl, floor⟩

theorem sliderPosition_congr (finite : max.isFinite = true) (positive : 0 < max.value)
    {radius radius' : Single} (finite' : radius.isFinite = true) (finite'' : radius'.isFinite = true)
    (within : |radius'.value| ≤ max.value) (same : radius.value = radius'.value) :
    sliderPosition radius max = sliderPosition radius' max := by
  have within' : |radius.value| ≤ max.value := by rwa [same]
  obtain ⟨share, share_value, part⟩ := quotient_value finite positive finite' within'
  obtain ⟨share', share_value', part'⟩ := quotient_value finite positive finite'' within
  rw [(sliderPosition_eq_floor finite positive finite' within').1,
    (sliderPosition_eq_floor finite positive finite'' within).1, (scaled_value share part).2.1,
    (scaled_value share' part').2.1, share_value, share_value', same]

/-- Four roundings, each off by its part, on the way from a position to its radius and back. -/
theorem roundings_near {greatest fraction radius share onScale position : ℚ} (positive : 0 < greatest)
    (coarse : 1000 / 2 ^ 149 ≤ greatest) (first : |fraction - position / 1000| ≤ 1 / 2 ^ 23)
    (whole : |fraction| ≤ 1)
    (second : |radius - greatest * fraction| ≤ |greatest * fraction| / 2 ^ 24 + 1 / 2 / 2 ^ 149)
    (within : |radius| ≤ greatest)
    (third : |share - radius / greatest| ≤ |radius / greatest| / 2 ^ 24 + 1 / 2 / 2 ^ 149)
    (part : |share| ≤ 1) (fourth : |onScale - share * 1000| ≤ |share * 1000| / 2 ^ 24 + 1 / 2 / 2 ^ 149) :
    |onScale - position| < 1 := by
  have unit : (1 / 2 / 2 ^ 149 : ℚ) ≤ 1 / 2 ^ 24 := by norm_num
  have second : |radius / greatest - fraction| ≤ 1 / 2 ^ 24 + 1 / 2000 := by
    have quotient : radius / greatest - fraction = (radius - greatest * fraction) / greatest := by
      field_simp
    -- Divided by a greatest radius of a thousand units, half a unit is no more than half a step.
    rw [quotient, abs_div, abs_of_pos positive, div_le_iff₀ positive]
    have product : |greatest * fraction| ≤ greatest := by
      rw [abs_mul, abs_of_pos positive]
      exact mul_le_of_le_one_right positive.le whole
    linarith
  have third : |share - radius / greatest| ≤ 2 / 2 ^ 24 := by
    have quotient : |radius / greatest| ≤ 1 := by
      rw [abs_div, abs_of_pos positive]
      exact div_le_one_of_le₀ within positive.le
    linarith
  have fourth : |onScale - share * 1000| ≤ 1001 / 2 ^ 24 := by
    have product : |share * 1000| ≤ 1000 := by
      rw [abs_mul, abs_of_pos (by norm_num : (0 : ℚ) < 1000)]
      linarith
    linarith
  rw [abs_le] at first second third fourth
  rw [abs_lt]
  constructor <;> linarith

section
variable (finite : max.isFinite = true) (positive : 0 < max.value) {position : Nat}
  (onSlider : position ≤ sliderMax)
include finite positive onSlider

theorem radius_value :
    (max * sliderFraction position).isFinite = true ∧
      (max * sliderFraction position).value =
        Format.single.rounded (max.value * (sliderFraction position).value) ∧
      |(max * sliderFraction position).value| ≤ max.value := by
  obtain ⟨share, -, part⟩ := sliderFraction_value onSlider
  exact share_value finite share part positive

theorem sliderPosition_eq_iff :
    sliderPosition (max * sliderFraction position) max = position ↔ Survives max position := by
  obtain ⟨radius, radius_value, within⟩ := radius_value finite positive onSlider
  obtain ⟨share, share_value, part⟩ := quotient_value finite positive radius within
  obtain ⟨onScale, onScale_value, -⟩ := scaled_value share part
  have small : sliderMax + 1 < 2 ^ 24 := by decide
  obtain ⟨here, here_value⟩ := single_ofNat (n := position) (by omega)
  obtain ⟨next, next_value⟩ := single_ofNat (n := position + 1) (by omega)
  have nonneg : 0 ≤ (max * sliderFraction position / max * Binary.ofNat sliderMax).value := by
    have start := sliderFraction_nonneg onSlider
    have radius_nonneg : 0 ≤ (max * sliderFraction position).value := by
      rw [radius_value]
      exact Format.rounded_nonneg _ (mul_nonneg positive.le start)
    have share_nonneg : 0 ≤ (max * sliderFraction position / max).value := by
      rw [share_value]
      exact Format.rounded_nonneg _ (div_nonneg radius_nonneg positive.le)
    rw [onScale_value]
    exact Format.rounded_nonneg _ (mul_nonneg share_nonneg (by norm_num))
  rw [(sliderPosition_eq_floor finite positive radius within).1, Nat.floor_eq_iff nonneg, Survives, restored,
    le_iff_value here onScale, lt_iff_value onScale next, here_value, next_value, Nat.cast_succ]

/-- Unless the radii are nearly as small as numbers get, the roundings move a position less than a step. -/
theorem restored_near (coarse : 1000 / 2 ^ 149 ≤ max.value) :
    |(restored max position).value - position| < 1 := by
  obtain ⟨radius, radius_value, within⟩ := radius_value finite positive onSlider
  obtain ⟨share, share_value, part⟩ := quotient_value finite positive radius within
  obtain ⟨onScale, onScale_value, -⟩ := scaled_value share part
  have first := sliderFraction_near onSlider
  have second := single_error (max.value * (sliderFraction position).value)
  have third := single_error ((max * sliderFraction position).value / max.value)
  have fourth := single_error ((max * sliderFraction position / max).value * 1000)
  rw [← radius_value] at second
  rw [← share_value] at third
  rw [← onScale_value] at fourth
  have whole := (sliderFraction_value onSlider).2.2
  exact roundings_near positive coarse first whole second within third part fourth

theorem sliderPosition_step (coarse : 1000 / 2 ^ 149 ≤ max.value) :
    sliderPosition (max * sliderFraction position) max = position ∨
      0 < position ∧ sliderPosition (max * sliderFraction position) max = position - 1 := by
  obtain ⟨radius, -, within⟩ := radius_value finite positive onSlider
  have near := abs_lt.mp (restored_near finite positive onSlider coarse)
  rw [(sliderPosition_eq_floor finite positive radius within).1]
  change ⌊(restored max position).value⌋₊ = position ∨
    0 < position ∧ ⌊(restored max position).value⌋₊ = position - 1
  have upper : ⌊(restored max position).value⌋₊ < position + 1 := by
    rw [Nat.floor_lt' (by omega)]
    push_cast
    linarith
  cases position with
  | zero => exact .inl (by omega)
  | succ below =>
    have lower : below ≤ ⌊(restored max (below + 1)).value⌋₊ := by
      refine Nat.le_floor ?_
      push_cast at near
      linarith
    omega

end

example : Survives 20 12 ∧ ¬ Survives 20 13 ∧ Survives 20 14 := by decide +kernel

theorem wrapHeading_of_lt {heading : UInt8} (onRing : heading < headingRange) :
    wrapHeading heading.toNat = heading := by
  have ring : (headingRange.toNat : Int) = 100 := rfl
  have range : headingRange.toNat = 100 := rfl
  rw [UInt8.lt_iff_toNat_lt, range] at onRing
  apply UInt8.toNat_inj.mp
  rw [wrapHeading, UInt8.toNat_ofNat', ring]
  omega

theorem load_of_remembers {preferences : Preferences} {limits : RadiusLimits} {settings : ControlSettings}
    (inRange : settings.InRange) (centred : settings.fine = 0) (finite : limits.max.isFinite = true)
    (positive : 0 < limits.max.value) (remembers : Remembers preferences limits settings) {position : Nat}
    (onSlider : position ≤ sliderMax) (trim : settings.trim = sliderFraction position) :
    (load preferences limits).heading = settings.heading ∧
      (load preferences limits).trim =
        sliderFraction (sliderPosition (limits.max * sliderFraction position) limits.max) := by
  obtain ⟨heading, read, radius, read_finite, read_value⟩ := remembers
  obtain ⟨product, -, within⟩ := radius_value finite positive onSlider
  obtain ⟨zero, zero_value⟩ := single_ofNat (n := 0) (by decide)
  have guard : 0 < limits.max := (lt_iff_value zero finite).mpr (by rw [zero_value]; simpa using positive)
  rw [trim, centred, (trimRadius_centred product).2] at read_value
  unfold load
  simp only [heading, radius, guard, if_true, adjust, Option.getD_some]
  rw [sliderPosition_congr finite positive read_finite product within read_value]
  exact ⟨wrapHeading_of_lt inRange.heading, rfl⟩

end ControlSettings

namespace Control
open ControlSettings

theorem leastUsable_value :
    (1e-38 : Single).isFinite = true ∧ 1000 / 2 ^ 149 ≤ (1e-38 : Single).value := by
  decide +kernel

/--
A restart after ticks on settings that nobody touched, their fine trim at its centre. The heading is
restored. The trim slider is restored exactly if its position survives the roundings to its radius and
back; otherwise it loses one step, unless the greatest radius is near the least number there is.
-/
theorem restart_restores (limits : RadiusLimits) (interval : Nat) (preferences : Preferences)
    (before later : List Happening) (finite : limits.max.isFinite = true) (positive : 0 < limits.max)
    (centred : ((Session.new limits interval preferences).run before).1.settings.fine = 0)
    (untouched : ∀ adjustment, .adjust adjustment ∉ later) (ticked : ∃ now, .tick now ∈ later) :
    let session := ((Session.new limits interval preferences).run before).1
    let reloaded := load (session.run later).1.loop.store.preferences limits
    reloaded.heading = session.settings.heading ∧
      ∃ position ≤ sliderMax, session.settings.trim = sliderFraction position ∧
        (reloaded.trim = session.settings.trim ↔ Survives limits.max position) ∧
        (1e-38 ≤ limits.max → reloaded.trim = session.settings.trim ∨
          0 < position ∧ reloaded.trim = sliderFraction (position - 1)) := by
  intro session reloaded
  obtain ⟨zero, zero_value⟩ := single_ofNat (n := 0) (by decide)
  have positive : 0 < limits.max.value := by
    simpa [zero_value] using (lt_iff_value zero finite).mp positive
  have started : session.loop.limits = limits := Session.run_limits _ before
  have inRange : session.settings.InRange := Session.run_inRange (load_inRange preferences limits) before
  obtain ⟨position, onSlider, trim⟩ := inRange.trim
  obtain ⟨product, -, within⟩ := radius_value finite positive onSlider
  have remembers := session.run_remembers untouched (by
    rw [started, trim, centred]
    exact (trimRadius_centred product).1) (.inr ticked)
  rw [started] at remembers
  obtain ⟨heading, reloaded_trim⟩ := load_of_remembers inRange centred finite positive remembers onSlider trim
  have onSlider' := (sliderPosition_eq_floor finite positive product within).2
  refine ⟨heading, position, onSlider, trim, ?_, fun usable => ?_⟩
  · rw [reloaded_trim, trim, ← sliderPosition_eq_iff finite positive onSlider]
    exact ⟨sliderFraction_injective onSlider' onSlider, congrArg sliderFraction⟩
  · rw [reloaded_trim, trim]
    have coarse := leastUsable_value.2.trans ((le_iff_value leastUsable_value.1 finite).mp usable)
    exact (sliderPosition_step finite positive onSlider coarse).imp (congrArg sliderFraction)
      fun ⟨above, lower⟩ => ⟨above, congrArg sliderFraction lower⟩

def firstSession : Session := Session.new {} 400 {}

theorem firstSession_restarts :
    firstSession.settings.fine = 0 ∧
      (load (firstSession.run [.tick 0]).1.loop.store.preferences {}).heading =
        firstSession.settings.heading ∧
      ∃ position ≤ sliderMax, firstSession.settings.trim = sliderFraction position ∧
        ((load (firstSession.run [.tick 0]).1.loop.store.preferences {}).trim = firstSession.settings.trim ↔
          Survives 20 position) ∧
        (1e-38 ≤ (20 : Single) →
          (load (firstSession.run [.tick 0]).1.loop.store.preferences {}).trim = firstSession.settings.trim ∨
            0 < position ∧ (load (firstSession.run [.tick 0]).1.loop.store.preferences {}).trim =
              sliderFraction (position - 1)) :=
  ⟨by decide +kernel, restart_restores {} 400 {} [] [.tick 0] (by decide +kernel) (by decide +kernel)
    (by decide +kernel) (by simp) ⟨0, by simp⟩⟩

/-- The trim slider of a first start stands at a position that does not survive a restart. -/
theorem firstSession_drifts :
    (load (firstSession.run [.tick 0]).1.loop.store.preferences {}).trim ≠ firstSession.settings.trim := by
  decide +kernel

end Control
end SpinnerRemote
