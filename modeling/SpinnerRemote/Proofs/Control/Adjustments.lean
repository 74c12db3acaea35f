import Mathlib.Data.List.DropRight
import SpinnerRemote.Proofs.Control.Settings

/-!
Settings after any adjustments, whatever they start from. An adjustment turns one knob and leaves the others
as they were, and every knob stays in its range.

The heading lies on a ring of a hundred. `heading_goes_round` says where: at the heading that was set last,
or else at the stored one, and as many steps further as it was turned up more often than down since then.
-/
namespace SpinnerRemote

inductive Knob where
  | trim
  | fine
  | throttle
  | heading
  | tiltSteer
  | heartbeat
  | foreground
  deriving DecidableEq, Repr

namespace Adjustment

def knob : Adjustment → Knob
  | .trim _ => .trim
  | .fine _ => .fine
  | .throttle _ => .throttle
  | .heading _ => .heading
  | .headingUp => .heading
  | .headingDown => .heading
  | .tiltSteer _ => .tiltSteer
  | .heartbeat _ => .heartbeat
  | .foreground _ => .foreground

def heading? : Adjustment → Option UInt8
  | .heading value => some value
  | _ => none

end Adjustment

namespace ControlSettings

structure SameBut (knob : Knob) (one other : ControlSettings) : Prop where
  trim : knob ≠ .trim → one.trim = other.trim
  fine : knob ≠ .fine → one.fine = other.fine
  throttle : knob ≠ .throttle → one.throttle = other.throttle
  heading : knob ≠ .heading → one.heading = other.heading
  tiltSteer : knob ≠ .tiltSteer → one.tiltSteer = other.tiltSteer
  heartbeat : knob ≠ .heartbeat → one.heartbeat = other.heartbeat
  foreground : knob ≠ .foreground → one.foreground = other.foreground

theorem adjust_sameBut (settings : ControlSettings) (adjustment : Adjustment) :
    SameBut adjustment.knob (settings.adjust adjustment) settings := by
  cases adjustment <;> simp only [adjust, Adjustment.knob] <;> constructor <;> intro other <;>
    first | exact absurd rfl other | rfl

/-- What settings start from: nothing, or preferences of an earlier session. -/
inductive Origin where
  | usual
  | stored (preferences : Preferences) (limits : RadiusLimits)

namespace Origin

def settings : Origin → ControlSettings
  | .usual => {}
  | .stored preferences limits => load preferences limits

def heading : Origin → Int
  | .usual => 0
  | .stored preferences _ => (preferences.getInt? Preferences.headingKey).getD 0

theorem settings_inRange (origin : Origin) : origin.settings.InRange := by
  cases origin with
  | usual => exact default_inRange
  | stored preferences limits => exact load_inRange preferences limits

end Origin

theorem adjustments_inRange {settings : ControlSettings} (inRange : settings.InRange)
    (adjustments : List Adjustment) : (adjustments.foldl adjust settings).InRange := by
  induction adjustments generalizing settings with
  | nil => exact inRange
  | cons adjustment rest ih => exact ih (adjust_inRange inRange adjustment)

/-! The heading as an integer that is not taken onto the ring. -/

/-- The heading that was set last, or the one before all adjustments. -/
def lastSet (start : Int) (adjustments : List Adjustment) : Int :=
  ((adjustments.filterMap Adjustment.heading?).getLast?.map fun value => (value.toNat : Int)).getD start

def sinceSet (adjustments : List Adjustment) : List Adjustment :=
  adjustments.rtakeWhile fun adjustment => adjustment.heading?.isNone

def turns (adjustments : List Adjustment) : Int :=
  adjustments.count .headingUp - adjustments.count .headingDown

/-- Where the heading would be without a ring. -/
def unwrapped (start : Int) (adjustments : List Adjustment) : Int :=
  lastSet start adjustments + turns (sinceSet adjustments)

def turned (heading : Int) : Adjustment → Int
  | .heading value => value.toNat
  | .headingUp => heading + 1
  | .headingDown => heading - 1
  | .trim _ | .fine _ | .throttle _ | .tiltSteer _ | .heartbeat _ | .foreground _ => heading

theorem unwrapped_snoc (start : Int) (adjustments : List Adjustment) (adjustment : Adjustment) :
    unwrapped start (adjustments ++ [adjustment]) =
      turned (unwrapped start adjustments) adjustment := by
  cases adjustment <;>
    simp [unwrapped, lastSet, sinceSet, turns, turned, Adjustment.heading?] <;>
    omega

theorem wrapHeading_toNat (heading : Int) : ((wrapHeading heading).toNat : Int) = heading % 100 := by
  have ring : (headingRange.toNat : Int) = 100 := rfl
  rw [wrapHeading, UInt8.toNat_ofNat', ring]
  omega

theorem load_heading (preferences : Preferences) (limits : RadiusLimits) :
    (load preferences limits).heading =
      wrapHeading ((preferences.getInt? Preferences.headingKey).getD 0) := by
  unfold load
  dsimp only
  split <;> rfl

theorem Origin.settings_heading (origin : Origin) :
    (origin.settings.heading.toNat : Int) = origin.heading % 100 := by
  cases origin with
  | usual => rfl
  | stored preferences limits =>
    rw [settings, load_heading]
    exact wrapHeading_toNat _

/-- A step up fits a byte, and a step down from zero is taken to the other end. -/
theorem adjust_heading {settings : ControlSettings} (onRing : settings.heading < headingRange)
    {heading : Int} (here : (settings.heading.toNat : Int) = heading % 100) (adjustment : Adjustment) :
    ((settings.adjust adjustment).heading.toNat : Int) = turned heading adjustment % 100 := by
  have range : headingRange.toNat = 100 := rfl
  have one : (1 : UInt8).toNat = 1 := rfl
  rw [UInt8.lt_iff_toNat_lt, range] at onRing
  cases adjustment with
  | heading value =>
    simp only [adjust, turned, UInt8.toNat_mod, range]
    omega
  | headingUp =>
    simp only [adjust, turned, UInt8.toNat_mod, UInt8.toNat_add, range, one]
    omega
  | headingDown =>
    simp only [adjust, turned]
    split
    next zero =>
      have last : (headingRange - 1).toNat = 99 := rfl
      have zero : settings.heading.toNat = 0 := by rw [zero]; rfl
      omega
    next nonzero =>
      have positive : settings.heading.toNat ≠ 0 := fun zero => nonzero (UInt8.toNat_inj.mp zero)
      rw [UInt8.toNat_sub_of_le _ _ (UInt8.le_iff_toNat_le.mpr (by omega)), one]
      omega
  | _ =>
    rw [(adjust_sameBut settings _).heading (by simp [Adjustment.knob])]
    exact here

theorem adjustments_heading (origin : Origin) (adjustments : List Adjustment) :
    ((adjustments.foldl adjust origin.settings).heading.toNat : Int) =
      unwrapped origin.heading adjustments % 100 := by
  induction adjustments using List.reverseRecOn with
  | nil => simpa [unwrapped, lastSet, sinceSet, turns] using origin.settings_heading
  | append_singleton before adjustment ih =>
    have onRing := (adjustments_inRange origin.settings_inRange before).heading
    rw [List.foldl_append, unwrapped_snoc]
    exact adjust_heading onRing ih adjustment

/--
Settings that start from nothing or from any preferences, with any limits, after any adjustments. Heading and
throttle are in their ranges and both trims are positions of a slider. The heading is on its ring where the
last one that was set or stored and the turns since then bring it, and a step up from it fits a byte. Of any
settings, an adjustment changes its own knob only.
-/
theorem heading_goes_round (origin : Origin) (adjustments : List Adjustment) :
    let settings := adjustments.foldl adjust origin.settings
    settings.heading ≤ 99 ∧ settings.throttle ≤ 100 ∧
      (∃ position ≤ 1000, settings.trim = Binary.ofNat position / Binary.ofNat 1000) ∧
      (∃ position ≤ 1000,
        settings.fine = (Binary.ofNat position / Binary.ofNat 1000 - 0.5) * 0.3) ∧
      (settings.heading.toNat : Int) =
        (lastSet origin.heading adjustments + turns (sinceSet adjustments)) % 100 ∧
      settings.heading.toNat + 1 < UInt8.size ∧
      ∀ (any : ControlSettings) (adjustment : Adjustment),
        SameBut adjustment.knob (any.adjust adjustment) any := by
  intro settings
  have inRange : settings.InRange := adjustments_inRange origin.settings_inRange adjustments
  have onRing : settings.heading.toNat < 100 := UInt8.lt_iff_toNat_lt.mp inRange.heading
  obtain ⟨trim, trimOnSlider, trim_eq⟩ := inRange.trim
  obtain ⟨fine, fineOnSlider, fine_eq⟩ := inRange.fine
  rw [sliderFraction_of_le trimOnSlider] at trim_eq
  rw [sliderFraction_of_le fineOnSlider] at fine_eq
  have ninetyNine : (99 : UInt8).toNat = 99 := rfl
  have size : UInt8.size = 256 := rfl
  refine ⟨?_, inRange.throttle, ⟨trim, trimOnSlider, trim_eq⟩, ⟨fine, fineOnSlider, fine_eq⟩,
    adjustments_heading origin adjustments, by omega, adjust_sameBut⟩
  rw [UInt8.le_iff_toNat_le]
  omega

example : ([.headingDown, .headingDown, .heading 199, .trim 7, .headingUp, .headingUp].foldl adjust
    {}).heading = 1 := by decide

end ControlSettings
end SpinnerRemote
