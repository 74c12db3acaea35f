import SpinnerRemote.Binary.Arithmetic
import SpinnerRemote.Uuid

/-!
The wire formats of the robot: the frame that is written to its config characteristic, and the telemetry
that it sends as notifications.

A frame has six bytes: the radius in thousandths of a centimetre (low byte first), the heading, the
throttle, the direction and the heartbeat. Telemetry has at least three: the rotation period in
milliseconds (zero when the robot stands still), one byte without meaning, the battery in decivolts.
-/
namespace SpinnerRemote

def robotName : String := "Melty_Bot"

def serviceUuid : Uuid := ⟨0x000015231212efde1523785feabcd123#128⟩
def telemetryUuid : Uuid := ⟨0x000015241212efde1523785feabcd123#128⟩
def configUuid : Uuid := ⟨0x000015251212efde1523785feabcd123#128⟩

inductive WireError where
  | frameLength (actual : Nat)
  | telemetryTooShort (actual : Nat)
  | invalidDirection (byte : UInt8)
  deriving DecidableEq, Repr

def frameSize : Nat := 6

def WireError.message : WireError → String
  | .frameLength actual => s!"invalid frame length: expected {frameSize}, got {actual}"
  | .telemetryTooShort actual => s!"telemetry payload too short: {actual} bytes"
  | .invalidDirection byte => s!"invalid translate direction byte {byte}"

inductive Direction where
  | idle
  | forward
  | reverse
  deriving DecidableEq, Repr

namespace Direction

def byte : Direction → UInt8
  | .idle => 0
  | .forward => 1
  | .reverse => 2

def ofByte? : UInt8 → Option Direction
  | 0 => some .idle
  | 1 => some .forward
  | 2 => some .reverse
  | _ => none

def name : Direction → String
  | .idle => "IDLE"
  | .forward => "FORWARD"
  | .reverse => "REVERSE"

theorem ofByte?_byte (direction : Direction) : ofByte? direction.byte = some direction := by
  cases direction <;> rfl

end Direction

def headingRange : UInt8 := 100

def throttleMax : UInt8 := 100

/-- The radius in thousandths of a centimetre, rounded, within a word; NaN gives zero. -/
def radiusToFixed (radius : Single) : UInt16 := .ofNat ((radius * 1000).nearestNat 65535)

def fixedToRadius (fixed : UInt16) : Single := Binary.ofNat fixed.toNat / 1000

structure Frame where
  radius : UInt16
  heading : UInt8
  throttle : UInt8
  direction : Direction
  heartbeat : UInt8
  deriving DecidableEq, Repr

namespace Frame

/-- The frame of a tick: the heading is taken onto its ring, the throttle is capped. -/
def new (radius : Single) (heading throttle : UInt8) (direction : Direction) (heartbeat : UInt8) :
    Frame where
  radius := radiusToFixed radius
  heading := heading % headingRange
  throttle := min throttle throttleMax
  direction := direction
  heartbeat := heartbeat

def radiusCm (frame : Frame) : Single := fixedToRadius frame.radius

def encode (frame : Frame) : List UInt8 :=
  [frame.radius.toUInt8, (frame.radius >>> 8).toUInt8, frame.heading, frame.throttle,
    frame.direction.byte, frame.heartbeat]

def decode : List UInt8 → Except WireError Frame
  | [low, high, heading, throttle, direction, heartbeat] =>
    match Direction.ofByte? direction with
    | some direction =>
      .ok { radius := low.toUInt16 ||| high.toUInt16 <<< 8, heading, throttle, direction, heartbeat }
    | none => .error (.invalidDirection direction)
  | bytes => .error (.frameLength bytes.length)

end Frame

structure Telemetry where
  rpm : Single
  volts : Single
  deriving DecidableEq, Repr

namespace Telemetry

/-- Reads telemetry; bytes behind the third have no meaning. -/
def decode : List UInt8 → Except WireError Telemetry
  | period :: _ :: battery :: _ =>
    .ok {
      rpm := if period = 0 then 0 else 1 / Binary.ofNat period.toNat * 1000 * 60
      volts := Binary.ofNat battery.toNat / 10 }
  | bytes => .error (.telemetryTooShort bytes.length)

def encode (period battery : UInt8) : List UInt8 := [period, 0, battery]

end Telemetry
end SpinnerRemote
