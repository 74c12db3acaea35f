import SpinnerRemote.Proofs.Station.Coupling

/-!
Frames from the link to the robot. Over every order in which requests, timers, deliveries and the loss of
the robot can come, each frame that the machine writes is taken by the robot as it was sent, and nothing
else is.
-/
namespace SpinnerRemote

open Transport (Call)
open Robot (Simulator)

namespace Link

def Turn.writes? (turn : Turn) : Option Frame :=
  if turn.step.calls.any isWrite then turn.moment.event.sends? else none

def writtenFrames (turns : List Turn) : List Frame := turns.filterMap (·.writes?)

theorem writtenFrames_snoc (turns : List Turn) (turn : Turn) :
    writtenFrames (turns ++ [turn]) = writtenFrames turns ++ turn.writes?.toList := by
  cases written : turn.writes? <;> simp [writtenFrames, written]

def refusal? : Call → Option Transport.Error
  | .startScan _ (.error error) => some error
  | .connect _ (.error error) => some error
  | .discoverServices _ (.error error) => some error
  | .write _ _ _ (.error error) => some error
  | _ => none

end Link

namespace Station

def turns (station : Station) (moves : List Move) : List Link.Turn :=
  station.machine.history (station.moments moves)

def turn (station : Station) (event : Link.Event) : Link.Turn :=
  ⟨station.machine, ⟨station.robot.answers, event⟩⟩

/-- The robot took these frames, in this order. -/
structure Received (robot : Simulator) (frames : List Frame) : Prop where
  count : robot.framesReceived = frames.length
  last : robot.lastFrame = frames.getLast?

variable {station : Station} {event : Link.Event}

theorem brings_none_of_not_write {call : Call} (other : Link.isWrite call = false) :
    Simulator.brings? call = none := by
  cases call <;> first | rfl | cases other

theorem Coupled.brought (coupled : station.Coupled) :
    (station.handling event).calls.filterMap Simulator.brings? = (station.turn event).writes?.toList := by
  have outcome := Link.handle_outcome station.machine station.robot.answers event
  change _ = (if (station.handling event).calls.any Link.isWrite then event.sends? else none).toList
  rcases outcome.calls with none | ⟨call, one, -⟩
  · simp [handling, none]
  · have made : call ∈ (station.handling event).calls := by simp [handling, one]
    cases write : Link.isWrite call with
    | false => simp [handling, one, write, brings_none_of_not_write write]
    | true =>
      obtain ⟨frame, connection, channel, rfl, rfl⟩ := coupled.write_accepted made write
      simp [handling, one, Link.isWrite, Link.Event.sends?, Simulator.brings?, Frame.decode_encode,
        Except.toOption]

theorem Coupled.received_dispatch (coupled : station.Coupled) {frames : List Frame}
    (received : Received station.robot frames) :
    Received (station.dispatch event).robot (frames ++ (station.turn event).writes?.toList) := by
  rw [← coupled.brought]
  rcases station.dispatch_robot_cases event with ⟨none, after⟩ | ⟨call, one, after⟩
  · simpa [none, after] using received
  · rw [one, after]
    refine ⟨?_, ?_⟩
    · rw [Simulator.perform_framesReceived, received.count]
      cases brought : Simulator.brings? call <;> simp [brought]
    · rw [Simulator.perform_lastFrame, received.last]
      cases brought : Simulator.brings? call <;> simp [brought]

theorem turns_snoc (station : Station) (moves : List Move) (move : Move) :
    station.turns (moves ++ [move]) = station.turns moves ++
      ((station.run moves).moment? move).toList.map (⟨(station.run moves).machine, ·⟩) := by
  rw [turns, turns, moments_snoc, run_machine]
  cases (station.run moves).moment? move with
  | none => simp
  | some moment => simp [Link.Machine.history_snoc]

variable {settings : Settings} {robot : Simulator}

theorem run_received (built : Simulator.ofSettings settings = .ok robot) (config : Link.Config)
    (moves : List Move) :
    Received ((new config robot).run moves).robot (Link.writtenFrames ((new config robot).turns moves)) := by
  induction moves using List.reverseRecOn with
  | nil =>
    obtain ⟨-, -, last, count⟩ := ofSettings_eq built
    exact ⟨count, last⟩
  | append_singleton moves move ih =>
    rw [run_snoc, turns_snoc]
    rcases step_cases ((new config robot).run moves) move with
      ⟨none, outside⟩ | ⟨event, rest, queued, some, after⟩
    · obtain ⟨connection, jobs, same⟩ := outside.robot
      simpa [none, same] using ⟨ih.count, ih.last⟩
    · have coupled := (run_coupled built config moves).pop queued
      have received : Received ({ (new config robot).run moves with queue := rest }.dispatch event).robot _ :=
        coupled.received_dispatch ih
      rw [after, some, Option.toList_some, List.map_singleton, Link.writtenFrames_snoc]
      exact received

/-- The robot refuses nothing but to be connected to as another peripheral. -/
theorem Coupled.refuses (coupled : station.Coupled) {call : Call}
    (made : call ∈ (station.handling event).calls) {error : Transport.Error}
    (refused : Link.refusal? call = some error) :
    ∃ peripheral reason, call = .connect peripheral (.error error) ∧ error = .refused reason := by
  have answered := answered_of_handling made
  cases call with
  | connect peripheral answer =>
    cases answer with
    | ok => cases refused
    | error other =>
      cases refused
      have answer : .error error = station.robot.connectAnswer peripheral := answered
      unfold Simulator.connectAnswer at answer
      split at answer <;> cases answer
      exact ⟨peripheral, _, rfl, rfl⟩
  | startScan name answer =>
    obtain rfl : answer = .ok () := answered
    cases refused
  | discoverServices connection answer =>
    have known := coupled.subject_known made rfl
    obtain rfl : answer = .ok () := answered.trans (if_pos known)
    cases refused
  | write connection channel bytes answer =>
    obtain ⟨frame, connection, channel, -, same⟩ := coupled.write_accepted made rfl
    cases same
    cases refused
  | _ => cases refused

/--
On the robot of any settings, with a link of any configuration, after any run: the robot knows exactly the
connection that the phase holds, and whatever the machine is given next, it makes no call on another one.
No call was refused for an unknown connection, no write was refused at all, and no report of a write is
on its way that says it went wrong. The robot took as many frames as the machine turned requests into
writes, and the last frame that it took is the last of those.
-/
theorem frames_intact (built : Simulator.ofSettings settings = .ok robot) (config : Link.Config)
    (moves : List Move) :
    ((new config robot).run moves).robot.known =
        ((new config robot).run moves).machine.phase.connection?.toList ∧
      (∀ event, ∀ call ∈ (((new config robot).run moves).handling event).calls, ∀ connection,
        Link.subject? call = some connection →
          connection ∈ ((new config robot).run moves).robot.known) ∧
      (∀ call ∈ ((new config robot).run moves).calls.map (·.2), ∀ connection,
        Link.refusal? call ≠ some (.unknownConnection connection)) ∧
      (∀ connection channel bytes answer,
        .write connection channel bytes answer ∈ ((new config robot).run moves).calls.map (·.2) →
          answer = .ok ()) ∧
      (∀ connection channel status,
        .written connection channel status ∈ ((new config robot).run moves).coming →
          status = Transport.success) ∧
      ((new config robot).run moves).robot.framesReceived =
        (Link.writtenFrames ((new config robot).turns moves)).length ∧
      ((new config robot).run moves).robot.lastFrame =
        (Link.writtenFrames ((new config robot).turns moves)).getLast? := by
  have coupled := run_coupled built config moves
  have received := run_received built config moves
  refine ⟨coupled.known, ?_, ?_, ?_, ?_, received.count, received.last⟩
  · intro event call made connection subject
    simpa [Simulator.isKnown] using coupled.subject_known made subject
  · intro call made connection refused
    obtain ⟨⟨⟩⟩ | ⟨earlier, event, -, made⟩ := exists_handling_of_calls made
    obtain ⟨peripheral, reason, -, other⟩ := (run_coupled built config earlier).refuses made refused
    cases other
  · intro connection channel bytes answer made
    obtain ⟨⟨⟩⟩ | ⟨earlier, event, -, made⟩ := exists_handling_of_calls made
    obtain ⟨frame, connection, channel, -, same⟩ :=
      (run_coupled built config earlier).write_accepted made rfl
    cases same
    rfl
  · intro connection channel status coming
    exact coupled.truthful _ coming

def turnRight : Frame := ⟨5000, 25, 50, .forward, 1⟩

def turnLeft : Frame := ⟨4000, 75, 60, .reverse, 2⟩

/-- A frame is written, and while the next one is under way the robot is lost; then it is connected to
again. A request that comes while a write is under way is passed over. -/
def lostWhileWriting : List Move :=
  untilReady ++
    [.request (.send turnRight), .handle, .job 1, .handle, .request (.send turnLeft), .handle,
      .request (.send turnRight), .handle, .powerOff, .handle, .request .scan, .handle, .job 0, .handle,
      .job 0, .handle, .timer 3, .handle]

theorem lostWhileWriting_intact :
    Simulator.ofSettings {} = .ok defaultRobot ∧
      Link.writtenFrames ((new {} defaultRobot).turns lostWhileWriting) = [turnRight, turnLeft] ∧
      ((new {} defaultRobot).run lostWhileWriting).robot.framesReceived = 2 ∧
      ((new {} defaultRobot).run lostWhileWriting).robot.lastFrame = some turnLeft ∧
      ((new {} defaultRobot).run lostWhileWriting).robot.known = [2] := by
  have built : Simulator.ofSettings {} = .ok defaultRobot := rfl
  have written : Link.writtenFrames ((new {} defaultRobot).turns lostWhileWriting) =
      [turnRight, turnLeft] := by decide
  have held : ((new {} defaultRobot).run lostWhileWriting).machine.phase.connection? = some 2 := by decide
  obtain ⟨known, -, -, -, -, count, last⟩ := frames_intact built {} lostWhileWriting
  exact ⟨built, written, count.trans (by rw [written]; rfl), last.trans (by rw [written]; rfl),
    known.trans (by rw [held]; rfl)⟩

end Station
end SpinnerRemote
