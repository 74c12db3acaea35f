import SpinnerRemote.Proofs.Link.Lifecycle

/-!
Events that fail. There are five ways to fail, told apart by their events, and each leaves the link in a
state of its own: `failures_leave_defined_state` gives for every failure of a run which of them it was, with
the error, the calls and the machine afterwards. From a state in which nothing is under way the robot can
be looked for again.
-/
namespace SpinnerRemote.Link

open Transport (Answers Call)

inductive Failure where
  | scanNotStarted
  | nothingFound
  | notConnected
  | notDiscovered
  | notWritten
  deriving DecidableEq

namespace Failure

def ofEvent? : Event → Option Failure
  | .scan => some .scanNotStarted
  | .timer (.scanTimedOut _) => some .nothingFound
  | .timer (.connectSettled _) => some .notConnected
  | .timer (.discoveryTimedOut _) => some .notDiscovered
  | .send _ => some .notWritten
  | .disconnect | .transport _ => none

/-- What a failure says of the event, of its error, and of what handling it came to. -/
def Describes (machine : Machine) (answers : Answers) (event : Event) (error : Error) (step : Step) :
    Failure → Prop
  | .scanNotStarted =>
    event = .scan ∧
      (answers.permission = false ∧ error = .permissionDenied ∧ step.calls = [] ∨
        ∃ refusal, answers.permission = true ∧
          answers.startScan machine.config.deviceName = .error refusal ∧ error = .transport refusal ∧
          step.calls = [.startScan machine.config.deviceName (.error refusal)]) ∧
      step.machine = machine ∧ step.events = []
  | .nothingFound =>
    ∃ scan, machine.scanner.active = some scan ∧ event = .timer (.scanTimedOut scan) ∧
      error = .scanTimeout ∧ step.machine.state = .idle ∧ step.machine.scanner.isScanning = false ∧
      step.calls = [.stopScan]
  | .notConnected =>
    ∃ attempt peripheral, machine.phase = .connecting attempt peripheral none ∧
      event = .timer (.connectSettled attempt) ∧
      (answers.permission = false ∧ error = .permissionDenied ∧ step.calls = [] ∧
          step.machine.state = .idle ∨
        ∃ refusal, answers.permission = true ∧ answers.connect peripheral = .error refusal ∧
          error = .transport refusal ∧ step.calls = [.connect peripheral (.error refusal)] ∧
          step.machine.state = .disconnected .connectRejected ∧
          step.machine.phase.connection? = none)
  | .notDiscovered =>
    ∃ attempt peripheral connection found,
      machine.phase = .discovering attempt peripheral connection found ∧
      event = .timer (.discoveryTimedOut attempt) ∧ error = .discoveryIncomplete ∧
      step.machine.state = .discovering ∧ step.calls = [.disconnect connection]
  | .notWritten =>
    ∃ frame peripheral connection channels refusal, event = .send frame ∧
      machine.phase = .ready peripheral connection channels false false ∧
      answers.write connection channels.config frame.encode = .error refusal ∧
      error = .writeRejected refusal.message ∧ step.machine.state = .ready ∧
      step.machine.isWritePending = false ∧ step.machine.channels? = some channels

variable {machine : Machine} {answers : Answers} {event : Event} {error : Error} {step : Step}

theorem Describes.ofEvent? {failure : Failure}
    (describes : Describes machine answers event error step failure) :
    Failure.ofEvent? event = some failure := by
  cases failure with
  | scanNotStarted =>
    obtain ⟨rfl, -⟩ := describes
    rfl
  | nothingFound =>
    obtain ⟨_, _, rfl, -⟩ := describes
    rfl
  | notConnected =>
    obtain ⟨_, _, _, rfl, -⟩ := describes
    rfl
  | notDiscovered =>
    obtain ⟨_, _, _, _, _, rfl, -⟩ := describes
    rfl
  | notWritten =>
    obtain ⟨_, _, _, _, _, rfl, -⟩ := describes
    rfl

end Failure

variable {machine : Machine} {answers : Answers} {event : Event} {error : Error} {step : Step}

theorem Outcome.failure (outcome : Outcome machine answers event step) (bracketed : machine.Bracketed)
    (named : machine.scanner.target = machine.config.deviceName) (fails : step.result = .error error) :
    ∃ failure, Failure.Describes machine answers event error step failure := by
  cases outcome with
  | scanForbidden forbidden =>
    cases fails
    exact ⟨.scanNotStarted, rfl, .inl ⟨forbidden, rfl, rfl⟩, rfl, rfl⟩
  | scanRefused permitted quiet resting refused =>
    cases fails
    exact ⟨.scanNotStarted, rfl, .inr ⟨_, permitted, named ▸ refused, rfl, by rw [named]⟩, rfl, rfl⟩
  | scanExpired running =>
    cases fails
    have scanning := bracketed.mpr (bracketed.scanning running)
    refine ⟨.nothingFound, _, running, rfl, rfl, rfl, ?_, ?_⟩
    · simp [Scanner.isScanning]
    · rw [Scanner.stop_calls, if_pos scanning]
  | connectForbidden settling forbidden =>
    cases fails
    exact ⟨.notConnected, _, _, settling, rfl, .inl ⟨forbidden, rfl, rfl, rfl⟩⟩
  | connectRefused settling permitted refused =>
    cases fails
    exact ⟨.notConnected, _, _, settling, rfl, .inr ⟨_, permitted, refused, rfl, rfl, rfl, rfl⟩⟩
  | discoveryExpired discovering =>
    cases fails
    refine ⟨.notDiscovered, _, _, _, _, discovering, rfl, rfl, ?_, rfl⟩
    rw [Machine.state, discovering, Phase.state]
  | @writeRefused _ _ _ _ marked _ ready refused =>
    -- Of refusals in a row only the first fails.
    cases marked with
    | true => cases fails
    | false =>
      cases fails
      exact ⟨.notWritten, _, _, _, _, _, rfl, ready, refused, rfl, rfl, rfl, rfl⟩
  | _ => cases fails

theorem scans_of_rest (bracketed : machine.Bracketed)
    (named : machine.scanner.target = machine.config.deviceName)
    (rests : machine.state = .idle ∨ ∃ reason, machine.state = .disconnected reason)
    (permitted : answers.permission = true)
    (accepted : answers.startScan machine.config.deviceName = .ok ()) :
    (machine.handle answers .scan).machine.state = .scanning ∧
      (machine.handle answers .scan).result =
        .ok (some ⟨machine.config.scanTimeout, .scanTimedOut machine.scanner.nextId⟩) := by
  have edge : Edge machine answers .scan .scanning := .scanning rests permitted accepted
  have alert := edge.not_inert bracketed named
  have outcome := handle_outcome machine answers .scan
  generalize machine.handle answers .scan = step at outcome ⊢
  cases outcome with
  | ignored inert => exact absurd inert alert
  | scanForbidden forbidden => simp [permitted] at forbidden
  | scanRefused _ _ _ refused => simp [named, accepted] at refused
  | scanStarted => exact ⟨rfl, rfl⟩

/--
An event of a run that fails does so in exactly one way. A scan that fails changes nothing, so that the run
goes on as one in which it was not asked for. Where a failure leaves nothing under way, a scan that is then
permitted and accepted is started.
-/
theorem failures_leave_defined_state (config : Config) (moments : List Moment) (answers : Answers)
    (event : Event) (error : Error)
    (fails : (((Machine.new config).run moments).handle answers event).result = .error error) :
    let machine := (Machine.new config).run moments
    let step := machine.handle answers event
    (∃! failure, Failure.Describes machine answers event error step failure) ∧
    (event = .scan → ∀ later, ∃ turns,
      (Machine.new config).history (moments ++ ⟨answers, event⟩ :: later) =
        (Machine.new config).history moments ++ ⟨machine, answers, event⟩ :: turns ∧
      (Machine.new config).history (moments ++ later) = (Machine.new config).history moments ++ turns ∧
      (Machine.new config).run (moments ++ ⟨answers, event⟩ :: later) =
        (Machine.new config).run (moments ++ later)) ∧
    (step.machine.state = .idle ∨ (∃ reason, step.machine.state = .disconnected reason) →
      ∀ again, again.permission = true → again.startScan config.deviceName = .ok () →
        (step.machine.handle again .scan).machine.state = .scanning ∧
        ∃ scan, (step.machine.handle again .scan).result =
          .ok (some ⟨config.scanTimeout, .scanTimedOut scan⟩)) := by
  intro machine step
  have bracketed : machine.Bracketed := run_bracketed config moments
  have setUp : machine.config = config := run_config config moments
  have named : machine.scanner.target = config.deviceName := run_target config moments
  have outcome : Outcome machine answers event step := handle_outcome machine answers event
  obtain ⟨failure, describes⟩ := outcome.failure bracketed (setUp ▸ named) fails
  refine ⟨⟨failure, describes, ?_⟩, ?_, ?_⟩
  · intro other also
    exact Option.some.inj (also.ofEvent?.symm.trans describes.ofEvent?)
  · rintro rfl later
    have same : step.machine = machine := by
      cases describes.ofEvent?
      exact describes.2.2.1
    refine ⟨machine.history later, ?_, Machine.history_append _ _ _, ?_⟩
    · rw [Machine.history_append]
      exact congrArg (fun next => _ ++ _ :: Machine.history next later) same
    · rw [Machine.run_append, Machine.run_append]
      exact congrArg (Machine.run · later) same
  · intro rests again permitted accepted
    have same : step.machine.config = config := outcome.config_eq.trans setUp
    have target : step.machine.scanner.target = config.deviceName := outcome.target_eq.trans named
    have scans := scans_of_rest (outcome.bracketed bracketed) (same ▸ target) rests permitted
      (same ▸ accepted)
    exact ⟨scans.1, _, same ▸ scans.2⟩

def withoutSlots : Answers := { willing 1 with connect := fun _ => .error (.refused "no slots") }

def withoutPermission : Answers := { willing 1 with permission := false }

/-- A connect is refused, and the robot can be looked for again; a scan is forbidden while the link is
ready, which it stays. -/
theorem full_and_forbidden_defined :
    let settled := ((Machine.new {}).run (refusing.take 2)).handle withoutSlots (.timer (.connectSettled 1))
    settled.result = .error (.transport (.refused "no slots")) ∧
      settled.machine.phase = .disconnected .connectRejected ∧
      (∃! failure, Failure.Describes ((Machine.new {}).run (refusing.take 2)) withoutSlots
        (.timer (.connectSettled 1)) (.transport (.refused "no slots")) settled failure) ∧
      (settled.machine.handle (willing 2) .scan).machine.state = .scanning ∧
      (Machine.new {}).run (refusing.take 5 ++ [⟨withoutPermission, .scan⟩]) =
        (Machine.new {}).run (refusing.take 5 ++ []) := by
  intro settled
  have refused := failures_leave_defined_state {} (refusing.take 2) withoutSlots
    (.timer (.connectSettled 1)) _ rfl
  have denied := failures_leave_defined_state {} (refusing.take 5) withoutPermission .scan _ rfl
  obtain ⟨_, -, -, unchanged⟩ := denied.2.1 rfl []
  exact ⟨rfl, rfl, refused.1, (refused.2.2 (.inr ⟨_, rfl⟩) (willing 2) rfl rfl).1, unchanged⟩

end SpinnerRemote.Link
