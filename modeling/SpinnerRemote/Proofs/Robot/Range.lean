import SpinnerRemote.Proofs.Robot.Ending
import SpinnerRemote.Proofs.Wire.Frame

/-!
Frames in range, and how others come about. A frame that is made has its heading on the ring and its throttle
under the cap. One that is read has them as the bytes have them, and the robot takes it as it is.
-/
namespace SpinnerRemote

namespace Frame

structure InRange (frame : Frame) : Prop where
  heading : frame.heading ≤ 99
  throttle : frame.throttle ≤ 100

def BytesInRange (bytes : List UInt8) : Prop :=
  (∃ heading, bytes[2]? = some heading ∧ heading ≤ 99) ∧ ∃ throttle, bytes[3]? = some throttle ∧ throttle ≤ 100

theorem new_inRange (radius : Single) (heading throttle : UInt8) (direction : Direction) (heartbeat : UInt8) :
    (new radius heading throttle direction heartbeat).InRange := by
  have onRing : heading % headingRange < headingRange := UInt8.mod_lt _ (by decide)
  have range : headingRange.toNat = 100 := rfl
  rw [UInt8.lt_iff_toNat_lt, range] at onRing
  exact {
    heading := UInt8.le_iff_toNat_le.mpr (Nat.le_of_lt_succ onRing)
    throttle := Std.min_le_right }

theorem inRange_iff_encode (frame : Frame) : frame.InRange ↔ BytesInRange frame.encode := by
  constructor
  · intro inRange
    exact ⟨⟨_, rfl, inRange.heading⟩, _, rfl, inRange.throttle⟩
  · rintro ⟨⟨heading, ⟨⟩, onRing⟩, throttle, ⟨⟩, capped⟩
    exact ⟨onRing, capped⟩

/-- Reading looks at neither byte: what is read is in range only if the bytes are. -/
theorem decode_inRange_iff {bytes : List UInt8} {frame : Frame} (read : decode bytes = .ok frame) :
    frame.InRange ↔ BytesInRange bytes := by
  rw [inRange_iff_encode, encode_of_decode read]

end Frame

namespace Robot

def Act.brings? : Act → Option Frame
  | .call _ made => Simulator.brings? made
  | _ => none

namespace Simulator

theorem brings_write {bytes : List UInt8} {frame : Frame} (read : Frame.decode bytes = .ok frame)
    (connection : Transport.Connection) (characteristic : Transport.Characteristic) (answer : Unit) :
    brings? (.write connection characteristic bytes (.ok answer)) = some frame := by
  rw [brings?, read]
  rfl

theorem act_lastFrame (robot : Simulator) (act : Act) :
    (robot.act act).1.lastFrame = act.brings?.or robot.lastFrame := by
  cases act with
  | call now made => exact robot.perform_lastFrame now made
  | job index =>
    obtain ⟨jobs, same⟩ := robot.runJob_eq (robot.dueAt index) index
    simp only [Simulator.act, same]
    rfl
  | powerOff now =>
    obtain ⟨connection, jobs, same⟩ := robot.powerOff_unprompted.same
    simp only [Simulator.act, same]
    rfl

theorem after_lastFrame (robot : Simulator) (acts : List Act) :
    (robot.after acts).lastFrame = (acts.filterMap Act.brings?).getLast?.or robot.lastFrame := by
  induction acts using List.reverseRecOn with
  | nil => rfl
  | append_singleton acts act ih =>
    rw [after_snoc, act_lastFrame, ih, List.filterMap_append]
    cases brought : act.brings? <;> simp [brought]

end Simulator
end Robot
end SpinnerRemote
