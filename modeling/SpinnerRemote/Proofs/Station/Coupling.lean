import SpinnerRemote.Proofs.Link.Channels
import SpinnerRemote.Proofs.Link.Writes
import SpinnerRemote.Proofs.Station.Run
import SpinnerRemote.Proofs.Wire.Frame

/-!
What the link and the robot agree on in every state of a run: the robot knows exactly the connection that
the link holds, whatever it has yet to report is true of it, and a link that is ready writes to the
characteristic that takes frames.
-/
namespace SpinnerRemote

open Transport (Answers Call Characteristic Connection Peripheral Service)
open Robot (Simulator isUnasked)

namespace Link

def Answered (answers : Answers) : Call → Prop
  | .startScan name answer => answer = answers.startScan name
  | .connect peripheral answer => answer = answers.connect peripheral
  | .discoverServices connection answer => answer = answers.discoverServices connection
  | .enableNotification connection characteristic accepted =>
    accepted = answers.enableNotification connection characteristic
  | .write connection characteristic bytes answer => answer = answers.write connection characteristic bytes
  | _ => True

variable {machine : Machine} {answers : Answers} {event : Event} {step : Step}

theorem Outcome.answered (outcome : Outcome machine answers event step) :
    ∀ call ∈ step.calls, Answered answers call := by
  cases outcome with
  | becameReady _ _ enabled => simpa [Answered] using enabled.symm
  | searched _ _ answer => simpa [Answered] using answer.symm
  | scanRefused _ _ _ answer | scanStarted _ _ _ answer => simpa [Answered] using answer.symm
  | wrote _ answer | writeRefused _ answer => simpa [Answered] using answer.symm
  | connectAccepted _ _ answer | connectRefused _ _ answer => simpa [Answered] using answer.symm
  | _ => simp [Answered, Machine.stay]

/-- A link that is ready was so with the same channels, or has just found them in the services. -/
theorem Outcome.of_ready (outcome : Outcome machine answers event step) {peripheral : Peripheral}
    {connection : Connection} {channels : Channels} {pending rejected : Bool}
    (ready : step.machine.phase = .ready peripheral connection channels pending rejected) :
    machine.channels? = some channels ∨
      ∃ services, event = .transport (.services connection Transport.success services) ∧
        (PartialChannels.locate machine.config services).complete? = some channels ∧
        answers.enableNotification connection channels.telemetry = true := by
  cases outcome with
  | becameReady _ complete enabled =>
    cases ready
    exact .inr ⟨_, rfl, complete, enabled⟩
  | wrote before | writeRefused before | written before =>
    cases ready
    exact .inl (by rw [Machine.channels?, before])
  | ignored | scanForbidden | scanRefused | disconnectRequested | discoveryExpired | servicesFailed
  | measured => exact .inl (by rw [Machine.channels?, show machine.phase = _ from ready])
  | _ => cases ready

end Link

namespace Station

/-- A report says of the robot's services, and of a write, what is so. -/
def Truthful (robot : Simulator) : Transport.Event → Prop
  | .services _ _ services => services = robot.services
  | .written _ _ status => status = Transport.success
  | _ => True

structure Coupled (station : Station) : Prop where
  known : station.robot.known = station.machine.phase.connection?.toList
  truthful : ∀ report ∈ station.coming, Truthful station.robot report
  writable : ∀ channels, station.machine.channels? = some channels →
    channels.config.uuid = station.robot.config

variable {station after : Station} {event : Link.Event}

theorem truthful_of_unasked {robot : Simulator} {report : Transport.Event}
    (unasked : isUnasked report = true) : Truthful robot report := by
  cases report <;> trivial

theorem Coupled.outside (coupled : station.Coupled) (outside : Outside station after) : after.Coupled := by
  obtain ⟨connection, jobs, robot⟩ := outside.robot
  obtain ⟨more, lossless, unasked⟩ := outside.lossless
  refine ⟨?_, ?_, ?_⟩
  · rw [robot, outside.machine]
    exact coupled.known
  · intro report member
    rcases List.mem_append.mp (lossless.subset member) with before | new
    · rw [robot]
      exact coupled.truthful report before
    · exact truthful_of_unasked (unasked report new)
  · rw [robot, outside.machine]
    exact coupled.writable

theorem held_of_subject {call : Call} (made : call ∈ (station.handling event).calls)
    {connection : Connection} (subject : Link.subject? call = some connection) :
    station.machine.phase.connection? = some connection := by
  have outcome := Link.handle_outcome station.machine station.robot.answers event
  rcases outcome.calls with none | ⟨only, one, held, -⟩
  · rw [handling, none] at made
    cases made
  · rw [handling, one, List.mem_singleton] at made
    exact held connection (made ▸ subject)

theorem Coupled.subject_known (coupled : station.Coupled) {call : Call}
    (made : call ∈ (station.handling event).calls) {connection : Connection}
    (subject : Link.subject? call = some connection) : station.robot.isKnown connection = true := by
  simp [Simulator.isKnown, coupled.known, held_of_subject made subject]

theorem answered_of_handling {call : Call} (made : call ∈ (station.handling event).calls) :
    Link.Answered station.robot.answers call :=
  (Link.handle_outcome station.machine station.robot.answers event).answered call made

theorem next_of_connect {peripheral : Peripheral} {connection : Connection}
    (made : .connect peripheral (.ok connection) ∈ (station.handling event).calls) :
    connection = station.robot.nextConnection := by
  have answer : .ok connection = station.robot.connectAnswer peripheral := answered_of_handling made
  unfold Simulator.connectAnswer at answer
  split at answer <;> cases answer
  rfl

theorem Coupled.write_accepted (coupled : station.Coupled) {call : Call}
    (made : call ∈ (station.handling event).calls) (write : Link.isWrite call = true) :
    ∃ frame connection channel, event = .send frame ∧
      call = .write connection channel frame.encode (.ok ()) := by
  have outcome := Link.handle_outcome station.machine station.robot.answers event
  obtain ⟨frame, peripheral, connection, channels, rejected, sent, ready, same⟩ := outcome.of_write made write
  have known : station.robot.isKnown connection = true :=
    coupled.subject_known made (by rw [same]; rfl)
  have writable : channels.config.uuid = station.robot.config :=
    coupled.writable channels (by rw [Link.Machine.channels?, ready])
  have accepted : station.robot.answers.write connection channels.config frame.encode = .ok () := by
    simp [Simulator.answers, Simulator.writeAnswer, Simulator.ensureKnown, known, writable]
  exact ⟨frame, connection, channels.config, sent, by rw [same, accepted]⟩

theorem Coupled.starts_truthful (coupled : station.Coupled) {call : Call}
    (made : call ∈ (station.handling event).calls) :
    ∀ report ∈ station.robot.starts call, Truthful station.robot report := by
  cases call with
  | write connection channel bytes answer =>
    obtain ⟨frame, connection, channel, -, same⟩ := coupled.write_accepted made rfl
    rw [same]
    simp [Simulator.starts, Truthful, Simulator.takeFrame, Frame.decode_encode]
  | connect peripheral answer | discoverServices connection answer =>
    cases answer <;> simp [Simulator.starts, Truthful]
  | disconnect connection =>
    simp only [Simulator.starts]
    split <;> simp [Truthful]
  | startScan | stopScan | enableNotification | close => simp [Simulator.starts]

theorem knownAfter_of_quiet (robot : Simulator) {call : Call} (opens : Link.openedBy? call = none)
    (closes : Link.closedBy? call = none) : robot.knownAfter call = robot.known := by
  rcases call with _ | _ | ⟨_, _ | _⟩ | _ | _ | _ | _ | _ <;>
    simp_all [Simulator.knownAfter, Link.openedBy?, Link.closedBy?]

theorem Coupled.known_dispatch (coupled : station.Coupled) (bracketed : station.machine.Bracketed) :
    (station.dispatch event).robot.known =
      (station.dispatch event).machine.phase.connection?.toList := by
  have outcome := Link.handle_outcome station.machine station.robot.answers event
  rw [dispatch_machine]
  cases outcome.tenure bracketed with
  | kept same opens closes =>
    rw [handling, same, ← coupled.known]
    rcases station.dispatch_robot_cases event with ⟨-, after⟩ | ⟨call, one, after⟩
    · rw [after]
    · rw [handling] at one
      rw [after, Simulator.perform_known]
      refine knownAfter_of_quiet _ ?_ ?_
      · simpa [one, Link.opened] using opens
      · simpa [one, Link.closed] using closes
  | @began attempt peripheral connection free begun made =>
    have asked : .connect peripheral (.ok connection) ∈ (station.handling event).calls := by
      simp [handling, made]
    rw [station.dispatch_robot_of_call event made, Simulator.perform_known, handling, begun,
      Simulator.knownAfter, coupled.known, free, next_of_connect asked]
    rfl
  | ended held free made =>
    rw [station.dispatch_robot_of_call event made, Simulator.perform_known, handling, free,
      Simulator.knownAfter, coupled.known, held]
    simp

theorem dispatch_robot_constants (station : Station) (event : Link.Event) :
    (station.dispatch event).robot.services = station.robot.services ∧
      (station.dispatch event).robot.config = station.robot.config := by
  rcases station.dispatch_robot_cases event with ⟨-, after⟩ | ⟨call, -, after⟩ <;> simp [after]

/-- The channels of a link that became ready over the robot's services: telemetry was switched on, so it is
the robot's telemetry, and the other characteristic is the one that takes frames. -/
theorem config_of_enabled {robot : Simulator} {config : Link.Config} {connection : Connection}
    {channels : Link.Channels}
    (complete : (Link.PartialChannels.locate config robot.services).complete? = some channels)
    (enabled : robot.answers.enableNotification connection channels.telemetry = true) :
    channels.config.uuid = robot.config := by
  have located := Link.complete?_eq_some.mp complete
  have telemetry : channels.telemetry.uuid = robot.telemetry := by
    simp [Simulator.answers, Simulator.enableAnswer] at enabled
    exact enabled.2
  have configured := (Link.PartialChannels.mem_of_locate_telemetry located.1).2
  obtain ⟨member, -, differs⟩ := Link.PartialChannels.mem_of_locate_config located.2
  have either : channels.config.uuid = robot.telemetry ∨ channels.config.uuid = robot.config := by
    simp [Link.offered, Simulator.services] at member
    rcases member with same | same <;> simp [same]
  exact either.resolve_left fun same => differs (by rw [same, ← telemetry, configured])

theorem Coupled.dispatch (coupled : station.Coupled) (bracketed : station.machine.Bracketed)
    (truthful : ∀ report, event = .transport report → Truthful station.robot report) :
    (station.dispatch event).Coupled := by
  obtain ⟨services, config⟩ := station.dispatch_robot_constants event
  have outcome := Link.handle_outcome station.machine station.robot.answers event
  refine ⟨coupled.known_dispatch bracketed, ?_, ?_⟩
  · intro report member
    have before : Truthful station.robot report := by
      rcases mem_coming_of_dispatch member with coming | ⟨call, made, started⟩
      · exact coupled.truthful report coming
      · exact coupled.starts_truthful made report started
    cases report with
    | services => exact Eq.trans before services.symm
    | _ => exact before
  · intro channels ready
    rw [config]
    rw [dispatch_machine, Link.Machine.channels?] at ready
    split at ready
    next peripheral connection held pending rejected phase =>
      cases ready
      rcases outcome.of_ready phase with earlier | ⟨services, reported, complete, enabled⟩
      · exact coupled.writable channels earlier
      · obtain rfl : services = station.robot.services := truthful _ reported
        exact config_of_enabled complete enabled
    next => cases ready

theorem Coupled.pop (coupled : station.Coupled) {rest : List Link.Event}
    (queued : station.queue = event :: rest) : { station with queue := rest }.Coupled where
  known := coupled.known
  truthful report member := coupled.truthful report (coming_of_tail queued member)
  writable := coupled.writable

theorem Coupled.step (coupled : station.Coupled) (bracketed : station.machine.Bracketed) (move : Move) :
    (station.step move).Coupled := by
  rcases station.step_cases move with ⟨-, outside⟩ | ⟨event, rest, queued, -, after⟩
  · exact coupled.outside outside
  · rw [after]
    refine (coupled.pop queued).dispatch bracketed ?_
    rintro report rfl
    exact coupled.truthful report (coming_of_head queued)

theorem ofSettings_eq {settings : Settings} {robot : Simulator}
    (built : Simulator.ofSettings settings = .ok robot) :
    robot.known = [] ∧ robot.jobs = [] ∧ robot.lastFrame = none ∧ robot.framesReceived = 0 := by
  unfold Simulator.ofSettings at built
  split at built <;> cases built
  exact ⟨rfl, rfl, rfl, rfl⟩

theorem run_bracketed (config : Link.Config) (robot : Simulator) (moves : List Move) :
    ((new config robot).run moves).machine.Bracketed := by
  rw [run_machine]
  exact Link.run_bracketed config _

theorem run_coupled {settings : Settings} {robot : Simulator}
    (built : Simulator.ofSettings settings = .ok robot) (config : Link.Config) (moves : List Move) :
    ((new config robot).run moves).Coupled := by
  induction moves using List.reverseRecOn with
  | nil =>
    obtain ⟨known, jobs, -⟩ := ofSettings_eq built
    refine ⟨known, ?_, ?_⟩
    · simp [run, new, coming, Simulator.scheduled, jobs]
    · simp [run, new, Link.Machine.new, Link.Machine.channels?]
  | append_singleton moves move ih =>
    rw [run_snoc]
    exact ih.step (run_bracketed config robot moves) move

/-! A run over the robot of the default settings, on the way to a link that is ready. -/

def defaultRobot : Simulator where
  settings := {}
  deviceName := robotName
  service := serviceUuid
  telemetry := telemetryUuid
  config := configUuid

def untilConnecting : List Move :=
  [.request .scan, .handle, .job 0, .handle, .job 0, .handle, .timer 1, .handle]

def untilDiscovering : List Move := untilConnecting ++ [.job 0, .handle]

def untilReady : List Move := untilDiscovering ++ [.job 0, .handle]

end Station
end SpinnerRemote
