import SpinnerRemote.Preferences.Basic
import SpinnerRemote.Wire

/-!
What the operator can adjust: trim, fine trim, throttle, heading and three switches.

`ControlSettings.adjust` is the only way to change them, one field at a time. Sliders have a thousand
steps, the heading lies on a ring, the throttle is capped.
-/
namespace SpinnerRemote

/-- The least radius the robot is told and the radius of a full trim slider, in centimetres. -/
structure RadiusLimits where
  min : Single := 0.1
  max : Single := 20
  deriving DecidableEq, Repr

def sliderMax : Nat := 1000

/-- The fine trim covers half of this to either side. -/
def fineTrimSpan : Single := 0.3

structure ControlSettings where
  trim : Single := 0.5
  fine : Single := 0
  throttle : UInt8 := 0
  heading : UInt8 := 0
  tiltSteer : Bool := false
  heartbeat : Bool := true
  foreground : Bool := true
  deriving DecidableEq, Repr

/-- One adjustment by the operator. Sliders are given by their position, `0` to `1000`. -/
inductive Adjustment where
  | trim (position : Nat)
  | fine (position : Nat)
  | throttle (value : UInt8)
  | heading (value : UInt8)
  | headingUp
  | headingDown
  | tiltSteer (on : Bool)
  | heartbeat (on : Bool)
  | foreground (on : Bool)
  deriving DecidableEq, Repr

namespace ControlSettings

def sliderFraction (position : Nat) : Single :=
  Binary.ofNat (Nat.min position sliderMax) / Binary.ofNat sliderMax

def adjust (settings : ControlSettings) : Adjustment → ControlSettings
  | .trim position => { settings with trim := sliderFraction position }
  | .fine position => { settings with fine := (sliderFraction position - 0.5) * fineTrimSpan }
  | .throttle value => { settings with throttle := min value throttleMax }
  | .heading value => { settings with heading := value % headingRange }
  | .headingUp => { settings with heading := (settings.heading + 1) % headingRange }
  | .headingDown =>
    { settings with
      heading := if settings.heading = 0 then headingRange - 1 else settings.heading - 1 }
  | .tiltSteer on => { settings with tiltSteer := on }
  | .heartbeat on => { settings with heartbeat := on }
  | .foreground on => { settings with foreground := on }

def wrapHeading (heading : Int) : UInt8 := .ofNat (heading % headingRange.toNat).toNat

/-- The slider position of a radius, cut to a whole step of a word. -/
def sliderPosition (radius max : Single) : Nat :=
  (radius / max * Binary.ofNat sliderMax).floorNat 65535

/--
The settings at start-up: heading and radius as an earlier session left them, without which the heading
is zero and the radius lies halfway between the limits.
-/
def load (preferences : Preferences) (limits : RadiusLimits) : ControlSettings :=
  let restored : ControlSettings :=
    { heading := wrapHeading ((preferences.getInt? Preferences.headingKey).getD 0) }
  let radius := (preferences.getFloat? Preferences.radiusKey).getD ((limits.max + limits.min) / 2)
  if 0 < limits.max then restored.adjust (.trim (sliderPosition radius limits.max)) else restored

end ControlSettings
end SpinnerRemote
