import SpinnerRemote.Proofs.Link.Refusals
import SpinnerRemote.Proofs.Station.Frames
import SpinnerRemote.Proofs.Station.Tether

/-!
The connection on which frames come. The machine writes on the connection that it holds, and the robot
takes what is written although it may have let go of that connection: `frames_come_on_held`.
-/
namespace SpinnerRemote

open Transport (Connection Call)
open Robot (Simulator)

namespace Station

variable {station : Station} {connection : Connection}

/-- The robot takes a frame that the machine wrote on the connection that it holds. -/
structure Takes (before after : Station) (connection : Connection) (frame : Frame) : Prop where
  held : before.machine.phase.connection? = some connection
  written : ∃ characteristic, after.calls.map (·.2) =
    before.calls.map (·.2) ++ [.write connection characteristic frame.encode (.ok ())]
  count : after.robot.framesReceived = before.robot.framesReceived + 1
  last : after.robot.lastFrame = some frame
  connection : after.robot.connection = before.robot.connection

theorem Coupled.takes (coupled : station.Coupled) (rest : List Link.Event) {frame : Frame}
    {characteristic : Transport.Characteristic} {answer : Except Transport.Error Unit}
    (made : (station.handling (.send frame)).calls =
      [.write connection characteristic frame.encode answer]) :
    Takes station (station.handled (.send frame) rest) connection frame := by
  have asked : .write connection characteristic frame.encode answer ∈
      (station.handling (.send frame)).calls := by simp [made]
  obtain ⟨_, _, _, -, accepted⟩ := coupled.write_accepted asked rfl
  obtain rfl : answer = .ok () := (Call.write.inj accepted).2.2.2
  refine ⟨held_of_subject asked rfl, ⟨characteristic, ?_⟩, ?_, ?_, ?_⟩
  · rw [handled_calls, made]
  · rw [handled_robot made, Simulator.perform_framesReceived]
    simp [Simulator.brings?, Frame.decode_encode, Except.toOption]
  · rw [handled_robot made, Simulator.perform_lastFrame]
    simp [Simulator.brings?, Frame.decode_encode, Except.toOption]
  · exact (handled_connections made rest).1

theorem Coupled.takes_or_not (coupled : station.Coupled) (move : Move) :
    ((station.step move).robot.framesReceived = station.robot.framesReceived ∧
        (station.step move).robot.lastFrame = station.robot.lastFrame) ∨
      ∃ connection frame, Takes station (station.step move) connection frame := by
  rcases station.step_cases move with ⟨-, outside⟩ | ⟨event, rest, -, -, after⟩
  · obtain ⟨connection, jobs, same⟩ := outside.robot
    exact .inl (by simp [same])
  · change station.step move = station.handled event rest at after
    rw [after]
    rcases station.handled_robot_cases event rest with ⟨-, same⟩ | ⟨call, one, performed⟩
    · exact .inl ⟨by rw [same], by rw [same]⟩
    · have outcome := Link.handle_outcome station.machine station.robot.answers event
      cases write : Link.isWrite call with
      | false =>
        have brings := brings_none_of_not_write write
        refine .inl ⟨?_, ?_⟩
        · rw [performed, Simulator.perform_framesReceived, brings]
          rfl
        · rw [performed, Simulator.perform_lastFrame, brings]
          rfl
      | true =>
        obtain ⟨frame, _, connection, channels, _, rfl, -, rfl⟩ :=
          outcome.of_write (List.mem_of_mem_head? (congrArg List.head? one)) write
        exact .inr ⟨connection, frame, coupled.takes rest one⟩

variable {settings : Settings} {robot : Simulator}

/--
On the robot of any settings, with a link of any configuration, after any run: the connection that is up at
the robot is the one that the machine holds, unless its end was asked for or the robot was lost on it; and it
is up exactly as long as no report of its end is on its way. Whatever happens next, the robot takes nothing,
or one frame, which the machine wrote on the connection that it holds, and none on a connection that was
closed; and a frame that comes to a ready machine with no write under way is written and taken, whether or
not the connection is still up.
-/
theorem frames_come_on_held (built : Simulator.ofSettings settings = .ok robot) (config : Link.Config)
    (moves : List Move) :
    let station := (new config robot).run moves
    (∀ connection, station.robot.connection = some connection ↔
      station.machine.phase.connection? = some connection ∧
        .disconnect connection ∉ station.calls.map (·.2) ∧ ¬(new config robot).LostOn moves connection) ∧
    (∀ connection, station.machine.phase.connection? = some connection →
      (station.robot.connection = some connection ↔
        ∀ status, .disconnected connection status ∉ station.coming)) ∧
    (∀ move, ((station.step move).robot.framesReceived = station.robot.framesReceived ∧
        (station.step move).robot.lastFrame = station.robot.lastFrame) ∨
      ∃ connection frame, Takes station (station.step move) connection frame) ∧
    (∀ connection, .close connection ∈ station.calls.map (·.2) →
      ∀ move frame, ¬Takes station (station.step move) connection frame) ∧
    ∀ frame rest, station.queue = .send frame :: rest →
      ∀ peripheral connection channels marked,
        station.machine.phase = .ready peripheral connection channels false marked →
        Takes station (station.step .handle) connection frame := by
  intro station
  have tethered : station.Tethered ((new config robot).LostOn moves) := run_tethered built config moves
  have coupled : station.Coupled := run_coupled built config moves
  refine ⟨tethered.up, tethered.unheard, coupled.takes_or_not, ?_, ?_⟩
  · intro connection closed move frame takes
    exact tethered.closed connection closed takes.held
  · intro frame rest queued peripheral connection channels marked ready
    rw [step_of_queue queued]
    refine coupled.takes rest (Link.calls_of_send ready ?_ station.robot.answers frame)
    rw [Link.Machine.isWritePending, ready]

def toldToEnd : List Move := untilReady ++ [.request .disconnect, .handle, .request (.send turnRight)]

def lostBeforeSending : List Move := untilReady ++ [.request (.send turnRight), .powerOff]

theorem toldToEnd_takes :
    Simulator.ofSettings {} = .ok defaultRobot ∧
      ((new {} defaultRobot).run toldToEnd).machine.isConnected = true ∧
      ((new {} defaultRobot).run toldToEnd).robot.connection ≠ some 1 ∧
      Takes ((new {} defaultRobot).run toldToEnd) (((new {} defaultRobot).run toldToEnd).step .handle) 1
        turnRight := by
  have built : Simulator.ofSettings {} = .ok defaultRobot := rfl
  have ready : ((new {} defaultRobot).run toldToEnd).machine.phase =
      .ready defaultRobot.robot 1
        ⟨⟨telemetryUuid, Robot.telemetryHandle⟩, ⟨configUuid, Robot.configHandle⟩⟩ false false := by
    decide
  obtain ⟨up, -, -, -, takes⟩ := frames_come_on_held built {} toldToEnd
  have waits : ((new {} defaultRobot).run toldToEnd).queue = [.send turnRight] := by decide
  refine ⟨built, by rw [Link.Machine.isConnected, ready], ?_, takes turnRight [] waits _ _ _ _ ready⟩
  intro still
  exact ((up 1).mp still).2.1 (List.mem_of_getLast? rfl)

/-- A robot that was told to disconnect takes another frame on that connection, and so does one that was
powered off; neither has a connection then. -/
theorem let_go_takes_frame :
    (((new {} defaultRobot).run toldToEnd).robot.connection = none ∧
      ((new {} defaultRobot).run toldToEnd).robot.framesReceived = 0 ∧
      ((new {} defaultRobot).run (toldToEnd ++ [.handle])).robot.framesReceived = 1 ∧
      ((new {} defaultRobot).run (toldToEnd ++ [.handle])).robot.lastFrame = some turnRight ∧
      ((new {} defaultRobot).run (toldToEnd ++ [.handle])).robot.connection = none) ∧
    ((new {} defaultRobot).run lostBeforeSending).robot.connection = none ∧
      ((new {} defaultRobot).run lostBeforeSending).robot.framesReceived = 0 ∧
      ((new {} defaultRobot).run (lostBeforeSending ++ [.handle])).robot.framesReceived = 1 ∧
      ((new {} defaultRobot).run (lostBeforeSending ++ [.handle])).robot.connection = none := by
  decide

end Station
end SpinnerRemote
