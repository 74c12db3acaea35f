import SpinnerRemote.Control.Heartbeat
import SpinnerRemote.Control.Law
import SpinnerRemote.Preferences.Store

/-!
The control loop: each tick turns the settings and the latest sample into one frame, remembers the trim
radius and the heading, and hands the frame on when the link is up.
-/
namespace SpinnerRemote.Control

structure Output where
  radius : Single
  direction : Direction
  heading : UInt8
  throttle : UInt8
  heartbeat : UInt8
  frame : Frame
  connected : Bool
  deriving DecidableEq, Repr

def Output.sent (output : Output) : Option Frame := if output.connected then some output.frame else none

structure Moment where
  now : Nat
  settings : ControlSettings
  sample : Option AccelSample
  connected : Bool
  deriving DecidableEq, Repr

/-- What the loop keeps between ticks. `flushes` counts how often the store was told to save. -/
structure Loop where
  limits : RadiusLimits
  heartbeat : Heartbeat
  store : Preferences.Store
  flushes : Nat := 0

def radius (limits : RadiusLimits) (settings : ControlSettings) (sample : Option AccelSample) : Single :=
  let trimmed := trimRadius limits.max settings.trim settings.fine
  let bent :=
    match sample with
    | some sample => if settings.tiltSteer then applyTilt trimmed sample else trimmed
    | none => trimmed
  max bent limits.min

/-- Remembers the heading and the trim radius, which no tilt and no floor has touched. -/
def remember (store : Preferences.Store) (limits : RadiusLimits) (settings : ControlSettings) :
    Preferences.Store :=
  (store.setInt Preferences.headingKey settings.heading.toNat).setFloat Preferences.radiusKey
    (trimRadius limits.max settings.trim settings.fine)

def Loop.tick (loop : Loop) (moment : Moment) : Loop × Output :=
  let settings := moment.settings
  let radius := radius loop.limits settings moment.sample
  let direction := direction moment.sample
  let heartbeat := loop.heartbeat.tick moment.now (settings.heartbeat && settings.foreground)
  let frame := Frame.new radius settings.heading settings.throttle direction heartbeat.value
  ({ loop with
      heartbeat
      store := remember loop.store loop.limits settings
      flushes := loop.flushes + 1 },
    { radius, direction, heading := frame.heading, throttle := frame.throttle,
      heartbeat := heartbeat.value, frame, connected := moment.connected })

def Loop.saved (loop : Loop) : Loop := { loop with store := loop.store.saved }

end SpinnerRemote.Control
