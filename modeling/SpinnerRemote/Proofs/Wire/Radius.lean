import SpinnerRemote.Proofs.Binary.Order
import SpinnerRemote.Proofs.Wire.Frame

/-!
The radius on the wire. Scaling by a thousand, rounding and clamping each keep the order of numbers, so the
encoding does; and the roundings on the way from a word to its radius and back are off by less than half a
thousandth together, so the word comes back.
-/
namespace SpinnerRemote
open Binary

theorem scale_value : (1000 : Single).isFinite = true ∧ (1000 : Single).value = 1000 :=
  single_ofNat (n := 1000) (by decide)

theorem toNat_radiusToFixed (radius : Single) :
    (radiusToFixed radius).toNat = (radius * 1000).nearestNat 65535 :=
  UInt16.toNat_ofNat_of_lt' (Nat.lt_succ_of_le (nearestNat_le 65535 (radius * 1000)))

theorem radiusToFixed_mono {radius radius' : Single} (le : radius ≤ radius') :
    radiusToFixed radius ≤ radiusToFixed radius' := by
  obtain ⟨finite, scale⟩ := scale_value
  have products : radius * 1000 ≤ radius' * 1000 :=
    Binary.mul_le_mul_right finite (by rw [scale]; norm_num) le
  rw [UInt16.le_iff_toNat_le, toNat_radiusToFixed, toNat_radiusToFixed]
  exact nearestNat_mono 65535 products

section
variable {n : Nat} (word : n ≤ 65535)
include word

theorem thousandth_value :
    (Binary.ofNat n / 1000 : Single).isFinite = true ∧
      (Binary.ofNat n / 1000 : Single).value = Format.single.rounded (n / 1000) := by
  obtain ⟨finite, scale⟩ := scale_value
  obtain ⟨whole, whole_value⟩ := single_ofNat (n := n) (by omega)
  obtain ⟨bound, bound_value⟩ := single_ofNat (n := 66) (by decide)
  have rounds := div_rounds whole finite (by rw [scale]; norm_num)
  rw [whole_value, scale] at rounds
  have small : (n : ℚ) ≤ 65535 := by exact_mod_cast word
  obtain ⟨finite, value, -⟩ := rounds.of_abs_le bound (by
    rw [bound_value, abs_of_nonneg (by positivity)]
    push_cast
    linarith)
  exact ⟨finite, value⟩

/-- The two roundings between a word and itself do not leave its half. -/
theorem rescaled_near :
    (Binary.ofNat n / 1000 * 1000 : Single).isFinite = true ∧
      |(Binary.ofNat n / 1000 * 1000 : Single).value - n| < 1 / 2 := by
  obtain ⟨scale, scale_value⟩ := scale_value
  obtain ⟨radius, radius_value⟩ := thousandth_value word
  obtain ⟨bound, bound_value⟩ := single_ofNat (n := 66000) (by decide)
  have small : (n : ℚ) ≤ 65535 := by exact_mod_cast word
  have quotient : |(n / 1000 : ℚ)| ≤ 66 := by
    rw [abs_of_nonneg (by positivity)]
    linarith
  have first := single_error (n / 1000)
  rw [← radius_value] at first
  have near : |(Binary.ofNat n / 1000 : Single).value * 1000 - n| ≤ 1 / 100 := by
    rw [abs_le] at first ⊢
    constructor <;> linarith
  have product : |(Binary.ofNat n / 1000 : Single).value * 1000| ≤ 66000 := by
    have nonneg : (0 : ℚ) ≤ n := n.cast_nonneg
    rw [abs_le] at near ⊢
    constructor <;> linarith
  have rounds := mul_rounds radius scale
  rw [scale_value] at rounds
  obtain ⟨finite, value, -⟩ := rounds.of_abs_le bound (by rwa [bound_value])
  have second := single_error ((Binary.ofNat n / 1000 : Single).value * 1000)
  rw [← value] at second
  refine ⟨finite, ?_⟩
  rw [abs_le] at second near
  rw [abs_lt]
  constructor <;> linarith

end

theorem radiusToFixed_fixedToRadius (fixed : UInt16) : radiusToFixed (fixedToRadius fixed) = fixed := by
  have word : fixed.toNat ≤ 65535 := Nat.le_of_lt_succ fixed.toNat_lt
  obtain ⟨finite, near⟩ := rescaled_near word
  rw [abs_lt] at near
  have floor : ⌊(Binary.ofNat fixed.toNat / 1000 * 1000 : Single).value + 1 / 2⌋₊ = fixed.toNat := by
    have nonneg : (0 : ℚ) ≤ fixed.toNat := Nat.cast_nonneg _
    rw [Nat.floor_eq_iff (by linarith)]
    constructor <;> linarith
  apply UInt16.toNat_inj.mp
  rw [toNat_radiusToFixed, fixedToRadius, nearestNat_eq_floor 65535 finite, floor, min_eq_right word]

/-! What no word can say is said by the nearest of the outermost two. -/

theorem radiusToFixed_of_nonpos {radius : Single} (nonpos : radius ≤ 0) : radiusToFixed radius = 0 := by
  have zero : radiusToFixed 0 = 0 := by decide +kernel
  have le := radiusToFixed_mono nonpos
  rw [zero] at le
  exact UInt16.le_zero_iff.mp le

theorem radiusToFixed_of_ge {radius : Single} (ge : 65.535 ≤ radius) : radiusToFixed radius = 65535 := by
  have top : radiusToFixed 65.535 = 65535 := by decide +kernel
  have le := radiusToFixed_mono ge
  rw [top, UInt16.le_iff_toNat_le] at le
  have word := (radiusToFixed radius).toNat_lt
  apply UInt16.toNat_inj.mp
  exact le_antisymm (Nat.le_of_lt_succ word) le

namespace Frame

theorem new_radius (radius : Single) (heading throttle : UInt8) (direction : Direction) (heartbeat : UInt8) :
    (new radius heading throttle direction heartbeat).radius = radiusToFixed radius := rfl

theorem encode_take_two (frame : Frame) :
    frame.encode.take 2 = [frame.radius.toUInt8, (frame.radius >>> 8).toUInt8] := rfl

/--
The encoding of the radius keeps the order of all numbers, infinities and zeros of either sign among them, so
a radius at or above a floor is never sent as less than the floor is. What lies outside of a word is sent as the
word's end on its side. Every word is what its radius is encoded to, so a frame that is read and then made anew
with its own radius has the same radius bytes.
-/
theorem radius_monotone_retraction :
    (∀ radius radius' : Single, radius ≤ radius' → radiusToFixed radius ≤ radiusToFixed radius') ∧
    (∀ floor radius : Single, floor ≤ radius → ∀ heading throttle direction heartbeat,
      radiusToFixed floor ≤ (new radius heading throttle direction heartbeat).radius) ∧
    (∀ radius : Single, radius ≤ 0 → radiusToFixed radius = 0) ∧
    (∀ radius : Single, 65.535 ≤ radius → radiusToFixed radius = 65535) ∧
    (∀ fixed, radiusToFixed (fixedToRadius fixed) = fixed) ∧
    ∀ bytes frame, decode bytes = .ok frame → ∀ heading throttle direction heartbeat,
      (new frame.radiusCm heading throttle direction heartbeat).encode.take 2 = bytes.take 2 := by
  refine ⟨fun _ _ => radiusToFixed_mono, ?_, fun _ => radiusToFixed_of_nonpos, fun _ => radiusToFixed_of_ge,
    radiusToFixed_fixedToRadius, ?_⟩
  · intro floor radius le heading throttle direction heartbeat
    exact radiusToFixed_mono le
  · intro bytes frame read heading throttle direction heartbeat
    rw [← encode_of_decode read, encode_take_two, encode_take_two, new_radius, radiusCm,
      radiusToFixed_fixedToRadius]

/-- From the least number of all to the floor, to a radius above the word, to the greatest of all. -/
theorem radius_extremes :
    radiusToFixed (.inf true) = 0 ∧ radiusToFixed (.inf true) ≤ radiusToFixed 0.1 ∧
      radiusToFixed 0.1 ≤ (new 100 0 0 .idle 10).radius ∧ radiusToFixed (.inf false) = 65535 ∧
      (new (fixedToRadius 10000) 0 0 .idle 10).encode.take 2 = [0x10, 0x27] := by
  obtain ⟨mono, floor, low, high, -, again⟩ := radius_monotone_retraction
  exact ⟨low _ (by decide +kernel), mono _ _ (by decide +kernel), floor _ _ (by decide +kernel) 0 0 .idle 10,
    high _ (by decide +kernel), again [0x10, 0x27, 0, 0, 0, 10] _ rfl 0 0 .idle 10⟩

end Frame
end SpinnerRemote
