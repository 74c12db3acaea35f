import SpinnerRemote.Proofs.Program.Run
import SpinnerRemote.Proofs.Robot.Range
import SpinnerRemote.Proofs.Station.Coupling

/-!
Which frames reach the robot. What the machine writes is the frame of a request as it encodes, so a property
that all requested frames have is one of the last frame that the robot took. The control loop makes its frames
anew at each tick: the robot of the program never takes one that is out of range.
-/
namespace SpinnerRemote

open Robot (Simulator)

namespace Station

/-- The frames that wait to be sent and the last one that was taken all have a property. -/
structure Carries (keeps : Frame → Prop) (station : Station) : Prop where
  waiting : ∀ frame, .send frame ∈ station.queue → keeps frame
  taken : ∀ frame, station.robot.lastFrame = some frame → keeps frame

variable {keeps : Frame → Prop} {station : Station}

theorem brings_of_handling {event : Link.Event} {call : Transport.Call}
    (made : call ∈ (station.handling event).calls) {frame : Frame}
    (brought : Simulator.brings? call = some frame) : event = .send frame := by
  have outcome := Link.handle_outcome station.machine station.robot.answers event
  have write : Link.isWrite call = true := by
    cases call <;> first | rfl | cases brought
  obtain ⟨sent, _, connection, channels, _, rfl, -, rfl⟩ := outcome.of_write made write
  cases accepted : station.robot.answers.write connection channels.config sent.encode with
  | error => simp [accepted, Simulator.brings?] at brought
  | ok =>
    rw [accepted, Simulator.brings_write sent.decode_encode] at brought
    cases brought
    rfl

theorem taken_of_dispatch {event : Link.Event} {frame : Frame}
    (taken : (station.dispatch event).robot.lastFrame = some frame) :
    event = .send frame ∨ station.robot.lastFrame = some frame := by
  obtain ⟨-, same⟩ | ⟨call, one, after⟩ := station.dispatch_robot_cases event
  · rw [same] at taken
    exact .inr taken
  · rw [after, Simulator.perform_lastFrame, Option.or_eq_some_iff] at taken
    obtain brought | ⟨-, before⟩ := taken
    · have made : call ∈ (station.handling event).calls := by simp [one]
      exact .inl (brings_of_handling made brought)
    · exact .inr before

theorem Carries.dispatch (carries : station.Carries keeps) {event : Link.Event}
    (asked : ∀ frame, event = .send frame → keeps frame) : (station.dispatch event).Carries keeps where
  waiting := by
    rw [dispatch_queue]
    exact carries.waiting
  taken frame taken := (taken_of_dispatch taken).elim (asked frame) (carries.taken frame)

theorem Carries.report (carries : station.Carries keeps) {robot : Simulator}
    {records : List Log.Record} (same : robot.lastFrame = station.robot.lastFrame)
    (events : List Transport.Event) :
    ({ station with robot, records }.enqueue (events.map .transport)).Carries keeps where
  waiting frame waits := carries.waiting frame (by simpa [enqueue] using waits)
  taken frame taken := carries.taken frame (same ▸ taken)

theorem Carries.step (carries : station.Carries keeps) (move : Move)
    (asked : ∀ frame, move = .request (.send frame) → keeps frame) : (station.step move).Carries keeps := by
  cases move with
  | request request =>
    refine ⟨fun frame waits => ?_, carries.taken⟩
    obtain before | new := List.mem_append.mp waits
    · exact carries.waiting frame before
    · cases request with
      | send other =>
        cases List.mem_singleton.mp new
        exact asked frame rfl
      | _ => cases List.mem_singleton.mp new
  | handle =>
    cases queued : station.queue with
    | nil => simpa [Station.step, queued] using carries
    | cons event rest =>
      have tail : { station with queue := rest }.Carries keeps :=
        ⟨fun frame waits => carries.waiting frame (by simp [queued, waits]), carries.taken⟩
      simp only [Station.step, queued]
      refine tail.dispatch fun frame head => carries.waiting frame ?_
      simp [queued, head]
  | job index =>
    obtain ⟨jobs, same⟩ := station.robot.runJob_eq station.now index
    have kept : (station.robot.runJob station.now index).1.lastFrame = station.robot.lastFrame := by rw [same]
    exact carries.report kept _
  | timer index =>
    simp only [Station.step, runTimer]
    split
    · exact ⟨fun frame waits => carries.waiting frame (by simpa [enqueue] using waits), carries.taken⟩
    · exact carries
  | powerOff =>
    obtain ⟨connection, jobs, same⟩ := station.robot.powerOff_unprompted.same
    have kept : station.robot.powerOff.1.lastFrame = station.robot.lastFrame := by rw [same]
    exact carries.report kept _
  | clock now => exact ⟨carries.waiting, carries.taken⟩

theorem Carries.run (carries : station.Carries keeps) {moves : List Move}
    (asked : ∀ frame, .request (.send frame) ∈ moves → keeps frame) : (station.run moves).Carries keeps := by
  induction moves generalizing station with
  | nil => exact carries
  | cons move rest ih =>
    refine ih (carries.step move ?_) fun frame later => asked frame (List.mem_cons_of_mem _ later)
    rintro frame rfl
    exact asked frame List.mem_cons_self

theorem Carries.run_unasked (carries : station.Carries keeps) {moves : List Move}
    (unasked : ∀ move ∈ moves, move.isRequest = false) : (station.run moves).Carries keeps :=
  carries.run fun _ made => nomatch unasked _ made

theorem Carries.settle (carries : station.Carries keeps) : station.settle.Carries keeps := by
  rw [settle_eq_run]
  exact carries.run_unasked (by simp [Move.isRequest])

theorem Carries.advance (carries : station.Carries keeps) (limit : Nat) :
    (station.advance limit).Carries keeps := by
  obtain ⟨moves, ran, unasked⟩ := station.advance_eq_run limit
  rw [ran]
  exact carries.run_unasked unasked

theorem Carries.shutdown (carries : station.Carries keeps) : station.shutdown.Carries keeps := by
  unfold Station.shutdown
  split
  · exact carries
  · -- It is the work of a request to disconnect, of which no result comes.
    have robot : (station.absorb station.machine.disconnect).robot = (station.dispatch .disconnect).robot :=
      (station.dispatch_robot .disconnect).symm
    refine ⟨carries.waiting, fun frame taken => ?_⟩
    rw [robot] at taken
    exact (taken_of_dispatch taken).elim nofun (carries.taken frame)

end Station

namespace Program

open Console (Effect)

variable {keeps : Frame → Prop} {program : Program}

theorem perform_carries (carries : program.station.Carries keeps) (effects : List Effect) :
    (effects.foldl perform program).station.Carries keeps := by
  induction effects generalizing program with
  | nil => exact carries
  | cons effect rest ih =>
    refine ih ?_
    cases effect with
    | scan => exact carries.step (.request .scan) nofun
    | disconnect => exact carries.step (.request .disconnect) nofun
    | _ => exact carries

theorem input_carries (carries : program.station.Carries keeps) (inputs : List Console.Input) :
    (program.input inputs).station.Carries keeps := by
  rw [input_eq]
  refine perform_carries ?_ _
  exact carries

theorem catchUp_carries (carries : program.station.Carries keeps) : program.catchUp.station.Carries keeps :=
  input_carries carries _

theorem settle_carries (carries : program.station.Carries keeps) : program.settle.station.Carries keeps :=
  catchUp_carries carries.settle

theorem advanceLink_carries (carries : program.station.Carries keeps) (limit : Nat) :
    (program.advanceLink limit).station.Carries keeps :=
  catchUp_carries (carries.advance limit)

theorem tick_carries (carries : program.station.Carries Frame.InRange) :
    program.tick.station.Carries Frame.InRange := by
  unfold tick
  refine settle_carries ?_
  have advanced := advanceLink_carries carries program.nextTick
  generalize program.advanceLink program.nextTick = program at advanced
  dsimp only
  split
  next frame sent =>
    have made : frame.InRange := by
      obtain ⟨-, same⟩ := Option.ite_none_right_eq_some.mp sent
      rw [← Option.some.inj same]
      exact Frame.new_inRange ..
    refine advanced.step (.request (.send frame)) ?_
    rintro _ ⟨⟩
    exact made
  next => exact advanced

theorem step_carries (carries : program.station.Carries Frame.InRange) (happening : Happening) :
    (program.step happening).station.Carries Frame.InRange := by
  cases happening with
  | input input => exact input_carries carries [input]
  | conclude => exact carries
  | settle => exact settle_carries carries
  | powerOff => exact settle_carries (carries.step .powerOff nofun)
  | advanceLink limit => exact advanceLink_carries carries limit
  | tick => exact tick_carries carries
  | shutdown => exact catchUp_carries carries.shutdown

theorem run_carries (carries : program.station.Carries Frame.InRange) (happenings : List Happening) :
    (program.run happenings).station.Carries Frame.InRange := by
  induction happenings generalizing program with
  | nil => exact carries
  | cons happening rest ih => exact ih (step_carries carries happening)

variable {settings : Settings} {robot : Simulator}

/--
Making a frame takes heading and throttle into their ranges, reading one does not: it gives all six bytes back,
and a frame in range exactly for bytes in range. The robot takes whatever can be read as its last frame, so it
has one out of range exactly if the last readable bytes that were written to it have. The program never writes
such bytes: what its robot took last is in range after every run, whatever was stored and typed.
-/
theorem robot_takes_frames_in_range (built : Simulator.ofSettings settings = .ok robot) :
    (∀ radius heading throttle direction heartbeat,
      (Frame.new radius heading throttle direction heartbeat).InRange) ∧
    (∀ bytes frame, Frame.decode bytes = .ok frame →
      frame.encode = bytes ∧ (frame.InRange ↔ Frame.BytesInRange bytes)) ∧
    (∀ acts now connection characteristic bytes frame, Frame.decode bytes = .ok frame →
      ((robot.after acts).perform now (.write connection characteristic bytes (.ok ()))).lastFrame =
        some frame) ∧
    (∀ acts, (robot.after acts).lastFrame = (acts.filterMap Robot.Act.brings?).getLast?) ∧
    ∀ link store happenings frame,
      ((new settings link robot store).run happenings).station.robot.lastFrame = some frame →
        frame.InRange := by
  have fresh : robot.lastFrame = none := by rw [Simulator.eq_of_ofSettings built]
  refine ⟨Frame.new_inRange, ?_, ?_, ?_, ?_⟩
  · intro bytes frame read
    exact ⟨Frame.encode_of_decode read, Frame.decode_inRange_iff read⟩
  · intro acts now connection characteristic bytes frame read
    rw [Simulator.perform_lastFrame, Simulator.brings_write read]
    rfl
  · intro acts
    rw [Simulator.after_lastFrame, fresh, Option.or_none]
  · intro link store happenings frame taken
    have start : (new settings link robot store).station.Carries Frame.InRange :=
      ⟨nofun, fun _ taken => nomatch fresh.symm.trans taken⟩
    exact (run_carries start happenings).taken frame taken

def driven : List Happening :=
  ("throttle 100\nheading 99\nscan\n".toUTF8.toList.map fun byte => .input (.byte byte)) ++
    .settle :: .replicate 24 .tick

theorem driven_in_range :
    Simulator.ofSettings {} = .ok Station.defaultRobot ∧
      ∃ frame, ((new {} {} Station.defaultRobot {}).run driven).station.robot.lastFrame = some frame ∧
        frame.heading = 99 ∧ frame.throttle = 100 ∧ frame.InRange := by
  have built : Simulator.ofSettings {} = .ok Station.defaultRobot := rfl
  have taken : (((new {} {} Station.defaultRobot {}).run driven).station.robot.lastFrame.map
      fun frame => (frame.heading, frame.throttle)) = some (99, 100) := by decide +kernel
  obtain ⟨frame, taken, bytes⟩ := Option.map_eq_some_iff.mp taken
  obtain ⟨heading, throttle⟩ := Prod.mk.inj bytes
  obtain ⟨-, -, -, -, inRange⟩ := robot_takes_frames_in_range built
  exact ⟨built, frame, taken, heading, throttle, inRange {} {} driven frame taken⟩

/-- Bytes that are out of range twice are read, given back and taken by the robot as they are. -/
theorem outOfRange_is_taken :
    let bytes := [0x10, 0x27, 200, 200, 0, 10]
    ∃ frame, Frame.decode bytes = .ok frame ∧ frame.heading = 200 ∧ frame.throttle = 200 ∧
      ¬frame.InRange ∧ frame.encode = bytes ∧
      (Station.defaultRobot.after (Simulator.joined ++
        [.call 200 (.write 1 ⟨configUuid, 0x11⟩ bytes (.ok ()))])).lastFrame = some frame :=
  ⟨⟨10000, 200, 200, .idle, 10⟩, by decide, rfl, rfl, fun inRange => absurd inRange.heading (by decide),
    by decide, by decide⟩

end Program
end SpinnerRemote
