import SpinnerRemote.Control.Settings

/-!
The control law: how trim and tilt give a radius and a direction. All numbers are single precision, and
each operation is rounded in the order in which it stands.
-/
namespace SpinnerRemote

/-- The accelerometer of the operator's phone, in metres per second squared. -/
structure AccelSample where
  x : Single
  y : Single
  z : Single
  deriving DecidableEq, Repr

namespace Control

def standardGravity : Single := 9.8

def backThreshold : Single := 0.3

def forwardThreshold : Single := -0.1

def tiltGain : Single := 0.08

/-- The sample of a phone held level but for a tilt, given in G. -/
def tilted (forwardBack steer : Single) : AccelSample where
  x := forwardBack * standardGravity
  y := steer * standardGravity
  z := standardGravity

def trimRadius (max trim fine : Single) : Single :=
  let radius := max * trim
  radius + radius * fine

/-- Forward tilt has the last word. Without a sample the robot stays where it is. -/
def direction : Option AccelSample → Direction
  | none => .idle
  | some sample =>
    let tilt := sample.x / standardGravity
    if tilt < forwardThreshold then .forward
    else if backThreshold < tilt then .reverse
    else .idle

def steerFactor (tilt : Single) : Single := if 0 < tilt then tilt.sqrt else -(-tilt).sqrt

def applyTilt (radius : Single) (sample : AccelSample) : Single :=
  let steer := steerFactor (sample.y / standardGravity)
  radius + radius * steer * tiltGain

end Control
end SpinnerRemote
