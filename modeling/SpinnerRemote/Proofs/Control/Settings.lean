import SpinnerRemote.Control.Settings
import SpinnerRemote.Proofs.Binary.Rounds

/-!
The settings an operator can reach. Whatever is loaded and however it is adjusted, the trims are shares
of a slider's way, the throttle is capped and the heading lies on its ring.

The shares of a slider are finite, lie within a rounding of the thousandths they stand for, and differ
from position to position.
-/
namespace SpinnerRemote.ControlSettings

/-- Settings that the sliders, the cap and the ring can give. -/
structure InRange (settings : ControlSettings) : Prop where
  trim : ∃ position ≤ sliderMax, settings.trim = sliderFraction position
  fine : ∃ position ≤ sliderMax, settings.fine = (sliderFraction position - 0.5) * fineTrimSpan
  throttle : settings.throttle ≤ throttleMax
  heading : settings.heading < headingRange

theorem sliderFraction_onSlider (position : Nat) :
    ∃ onSlider ≤ sliderMax, sliderFraction position = sliderFraction onSlider :=
  ⟨min position sliderMax, min_le_right _ _, by simp [sliderFraction]⟩

theorem sliderFraction_of_le {position : Nat} (onSlider : position ≤ sliderMax) :
    sliderFraction position = Binary.ofNat position / Binary.ofNat sliderMax := by
  rw [sliderFraction, show Nat.min position sliderMax = position from Nat.min_eq_left onSlider]

theorem default_inRange : InRange {} where
  trim := ⟨500, by decide, by decide⟩
  fine := ⟨500, by decide, by decide⟩
  throttle := by decide
  heading := by decide

theorem wrapHeading_lt (heading : Int) : wrapHeading heading < headingRange := by
  have ring : (headingRange.toNat : Int) = 100 := rfl
  have range : headingRange.toNat = 100 := rfl
  unfold wrapHeading
  rw [UInt8.lt_iff_toNat_lt, UInt8.toNat_ofNat', ring, range]
  omega

theorem headingDown_lt {heading : UInt8} (onRing : heading < headingRange) (nonzero : heading ≠ 0) :
    heading - 1 < headingRange := by
  have positive : heading.toNat ≠ 0 := fun zero => nonzero (UInt8.toNat_inj.mp zero)
  have one : (1 : UInt8).toNat = 1 := rfl
  rw [UInt8.lt_iff_toNat_lt] at onRing ⊢
  rw [UInt8.toNat_sub_of_le _ _ (UInt8.le_iff_toNat_le.mpr (by omega))]
  omega

theorem adjust_inRange {settings : ControlSettings} (inRange : settings.InRange)
    (adjustment : Adjustment) : (settings.adjust adjustment).InRange := by
  cases adjustment with
  | trim position =>
    simp only [adjust]
    exact { inRange with trim := sliderFraction_onSlider position }
  | fine position =>
    obtain ⟨onSlider, bound, same⟩ := sliderFraction_onSlider position
    simp only [adjust]
    exact { inRange with fine := ⟨onSlider, bound, by rw [same]⟩ }
  | throttle value =>
    simp only [adjust]
    exact { inRange with throttle := Std.min_le_right }
  | heading value =>
    simp only [adjust]
    exact { inRange with heading := UInt8.mod_lt _ (by decide) }
  | headingUp =>
    simp only [adjust]
    exact { inRange with heading := UInt8.mod_lt _ (by decide) }
  | headingDown =>
    simp only [adjust]
    split
    · exact { inRange with heading := (by decide : headingRange - 1 < headingRange) }
    · rename_i nonzero
      exact { inRange with heading := headingDown_lt inRange.heading nonzero }
  | tiltSteer on => exact { inRange with }
  | heartbeat on => exact { inRange with }
  | foreground on => exact { inRange with }

theorem load_inRange (preferences : Preferences) (limits : RadiusLimits) :
    (load preferences limits).InRange := by
  have restored (heading : Int) : InRange { heading := wrapHeading heading } :=
    { default_inRange with heading := wrapHeading_lt heading }
  unfold load
  dsimp only
  split
  · exact adjust_inRange (restored _) _
  · exact restored _

theorem sliderMax_value :
    (Binary.ofNat sliderMax : Single).isFinite = true ∧ (Binary.ofNat sliderMax : Single).value = 1000 :=
  Binary.single_ofNat (by decide)

theorem sliderFraction_value {position : Nat} (onSlider : position ≤ sliderMax) :
    (sliderFraction position).isFinite = true ∧
      (sliderFraction position).value = Format.single.rounded (position / 1000) ∧
      |(sliderFraction position).value| ≤ 1 := by
  have bound : (position : ℚ) ≤ 1000 := by exact_mod_cast onSlider
  obtain ⟨whole, whole_value⟩ := Binary.single_ofNat (n := 1) (by decide)
  obtain ⟨way, way_value⟩ := sliderMax_value
  obtain ⟨part, part_value⟩ := Binary.single_ofNat (n := position) (onSlider.trans_lt (by decide))
  have rounds := Binary.div_rounds part way (by rw [way_value]; norm_num)
  rw [part_value, way_value] at rounds
  have share : |(position / 1000 : ℚ)| ≤ (Binary.ofNat 1 : Single).value := by
    rw [whole_value, abs_of_nonneg (by positivity), Nat.cast_one]
    linarith
  obtain ⟨finite, value, within⟩ := rounds.of_abs_le whole share
  rw [sliderFraction_of_le onSlider, value]
  rw [whole_value, Nat.cast_one] at within
  exact ⟨finite, rfl, within⟩

theorem sliderFraction_nonneg {position : Nat} (onSlider : position ≤ sliderMax) :
    0 ≤ (sliderFraction position).value := by
  rw [(sliderFraction_value onSlider).2.1]
  exact Format.rounded_nonneg _ (by positivity)

theorem sliderFraction_near {position : Nat} (onSlider : position ≤ sliderMax) :
    |(sliderFraction position).value - position / 1000| ≤ 1 / 2 ^ 23 := by
  have bound : (position : ℚ) ≤ 1000 := by exact_mod_cast onSlider
  have error := Binary.single_error (position / 1000)
  rw [abs_of_nonneg (by positivity : (0 : ℚ) ≤ position / 1000)] at error
  rw [(sliderFraction_value onSlider).2.1]
  refine error.trans ?_
  have share : (position / 1000 / 2 ^ 24 : ℚ) ≤ 1 / 2 ^ 24 := by
    gcongr
    linarith
  have half : (1 / 2 / 2 ^ 149 : ℚ) ≤ 1 / 2 ^ 24 := by norm_num
  linarith

theorem sliderFraction_injective {position position' : Nat} (onSlider : position ≤ sliderMax)
    (onSlider' : position' ≤ sliderMax) (same : sliderFraction position = sliderFraction position') :
    position = position' := by
  have near := abs_le.mp (sliderFraction_near onSlider)
  have near' := abs_le.mp (sliderFraction_near onSlider')
  rw [same] at near
  have small : (1 / 2 ^ 23 : ℚ) < 1 / 2000 := by norm_num
  have above : (position : ℚ) < position' + 1 := by linarith
  have below : (position' : ℚ) < position + 1 := by linarith
  have above : position < position' + 1 := by exact_mod_cast above
  have below : position' < position + 1 := by exact_mod_cast below
  omega

end SpinnerRemote.ControlSettings
