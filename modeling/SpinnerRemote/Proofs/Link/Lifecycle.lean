import SpinnerRemote.Proofs.Link.Readiness
import SpinnerRemote.Proofs.Link.Views

/-!
The link's life as it is specified: its edges, each with the event that takes the machine along it. A
machine that was reached by a run takes an edge exactly when the edge's event comes, takes no other way
from one state to another, and tells the display of each new state once.
-/
namespace SpinnerRemote.Link

open Transport (Answers Connection Peripheral)

/-- An event that takes a machine to another state, and what that needs. -/
inductive Edge (machine : Machine) (answers : Answers) : Event → State → Prop
  | scanning (rests : machine.state = .idle ∨ ∃ reason, machine.state = .disconnected reason)
      (permitted : answers.permission = true)
      (accepted : answers.startScan machine.config.deviceName = .ok ()) :
      Edge machine answers .scan .scanning
  | found {peripheral : Peripheral} (scans : machine.state = .scanning)
      (named : peripheral.name = machine.config.deviceName) :
      Edge machine answers (.transport (.discovered peripheral)) .connecting
  | stopped (scans : machine.state = .scanning) : Edge machine answers .disconnect .idle
  | expired {scan : Nat} (scans : machine.state = .scanning) (active : machine.scanner.active = some scan) :
      Edge machine answers (.timer (.scanTimedOut scan)) .idle
  | forbidden {attempt : Nat} {peripheral : Peripheral}
      (settling : machine.phase = .connecting attempt peripheral none)
      (denied : answers.permission = false) :
      Edge machine answers (.timer (.connectSettled attempt)) .idle
  | refused {attempt : Nat} {peripheral : Peripheral} {error : Transport.Error}
      (settling : machine.phase = .connecting attempt peripheral none)
      (permitted : answers.permission = true) (answer : answers.connect peripheral = .error error) :
      Edge machine answers (.timer (.connectSettled attempt)) (.disconnected .connectRejected)
  | connected {attempt : Nat} {peripheral : Peripheral} {connection : Connection} {status : Int}
      (connecting : machine.phase = .connecting attempt peripheral (some connection)) :
      Edge machine answers (.transport (.connected connection status)) .discovering
  | served {attempt : Nat} {peripheral : Peripheral} {connection : Connection} {before : PartialChannels}
      {services : List Transport.Service} {telemetry settings : Transport.Characteristic}
      (discovering : machine.phase = .discovering attempt peripheral connection before)
      (first : (PartialChannels.locate machine.config services).telemetry = some telemetry)
      (second : (PartialChannels.locate machine.config services).config = some settings)
      (enabled : answers.enableNotification connection telemetry = true) :
      Edge machine answers (.transport (.services connection Transport.success services)) .ready
  | lost {connection : Connection} {status : Int} (held : machine.phase.connection? = some connection) :
      Edge machine answers (.transport (.disconnected connection status)) (.disconnected (.status status))

variable {machine : Machine} {answers : Answers} {event : Event} {step : Step} {target : State}

theorem atRest_iff_state :
    machine.phase.AtRest ↔ machine.state = .idle ∨ ∃ reason, machine.state = .disconnected reason := by
  unfold Machine.state
  cases machine.phase <;> simp [Phase.AtRest, Phase.state]

theorem scanning_iff_state : machine.phase = .scanning ↔ machine.state = .scanning := by
  unfold Machine.state
  cases machine.phase <;> simp [Phase.state]

theorem Edge.leaves (edge : Edge machine answers event target) : machine.state ≠ target := by
  cases edge with
  | scanning rests =>
    rcases rests with idle | ⟨reason, ended⟩
    · simp [idle]
    · simp [ended]
  | found scans | stopped scans | expired scans => simp [scans]
  | forbidden phase | refused phase | connected phase | served phase =>
    simp [Machine.state, phase, Phase.state]
  | lost held => exact state_of_held held _

theorem Outcome.edge (outcome : Outcome machine answers event step) (bracketed : machine.Bracketed)
    (named : machine.scanner.target = machine.config.deviceName)
    (moved : machine.state ≠ step.machine.state) : Edge machine answers event step.machine.state := by
  cases outcome with
  | ignored | scanForbidden | scanRefused | disconnectRequested | discoveryExpired | servicesFailed
  | measured => exact absurd rfl moved
  | wrote phase | writeRefused phase | written phase | connectAccepted phase
  | searchedWithoutTelemetry phase | searched phase =>
    exact absurd (by simp [Machine.state, phase, Phase.state]) moved
  | scanStarted permitted quiet resting accepted =>
    exact .scanning (atRest_iff_state.mp resting) permitted (named ▸ accepted)
  | scanStopped scanning => exact .stopped (scanning_iff_state.mp scanning)
  | scanExpired active =>
    -- Only the bracket between scanner and phase makes the end of a scan an edge from scanning.
    exact .expired (scanning_iff_state.mp (bracketed.scanning active)) active
  | connectForbidden settling denied => exact .forbidden settling denied
  | connectRefused settling permitted answer => exact .refused settling permitted answer
  | found scanning target =>
    exact .found (scanning_iff_state.mp scanning) ((Scanner.isTarget_iff.mp target).trans named)
  | connected connecting => exact .connected connecting
  | disconnected held => exact .lost held
  | becameReady discovering complete enabled =>
    have located := complete?_eq_some.mp complete
    exact .served discovering located.1 located.2 enabled

theorem Edge.not_inert (edge : Edge machine answers event target) (bracketed : machine.Bracketed)
    (named : machine.scanner.target = machine.config.deviceName) : ¬machine.Inert answers event := by
  intro inert
  cases edge with
  | scanning rests =>
    have resting := atRest_iff_state.mpr rests
    rcases inert.2 with busy | active
    · have scanning := bracketed.mp busy
      simp [scanning, Phase.AtRest] at resting
    · exact active resting
  | found scans same =>
    rcases inert with elsewhere | other
    · exact elsewhere (scanning_iff_state.mpr scans)
    · simp [Scanner.isTarget_iff.mpr (same.trans named.symm)] at other
  | stopped scans => exact inert.1 (scanning_iff_state.mpr scans)
  | expired scans active => exact inert active
  | forbidden settling | refused settling => exact inert _ settling
  | connected connecting => exact inert _ _ connecting
  | served discovering => exact inert _ _ _ discovering
  | lost held => exact inert held

theorem Edge.taken (edge : Edge machine answers event target) (bracketed : machine.Bracketed)
    (named : machine.scanner.target = machine.config.deviceName) :
    (machine.handle answers event).machine.state = target := by
  have alert := edge.not_inert bracketed named
  have outcome := handle_outcome machine answers event
  generalize handled : machine.handle answers event = step at outcome ⊢
  cases edge with
  | scanning rests permitted accepted =>
    cases outcome with
    | ignored inert => exact absurd inert alert
    | scanForbidden denied => simp [denied] at permitted
    | scanRefused _ _ _ refused =>
      rw [named, accepted] at refused
      cases refused
    | scanStarted => rfl
  | found =>
    cases outcome with
    | ignored inert => exact absurd inert alert
    | found => rfl
  | stopped scans =>
    cases outcome with
    | ignored inert => exact absurd inert alert
    | scanStopped => rfl
    | disconnectRequested held => exact absurd (scanning_iff_state.mpr scans) (not_scanning_of_held held)
  | expired =>
    cases outcome with
    | ignored inert => exact absurd inert alert
    | scanExpired => rfl
  | forbidden settling denied =>
    cases outcome with
    | ignored inert => exact absurd inert alert
    | connectForbidden => rfl
    | connectAccepted _ permitted | connectRefused _ permitted => simp [permitted] at denied
  | refused settling permitted answer =>
    cases outcome with
    | ignored inert => exact absurd inert alert
    | connectForbidden _ denied => simp [denied] at permitted
    | connectAccepted other _ accepted =>
      cases settling.symm.trans other
      simp [answer] at accepted
    | connectRefused => rfl
  | connected =>
    cases outcome with
    | ignored inert => exact absurd inert alert
    | connected => rfl
  | served discovering first second enabled =>
    rw [← handled]
    exact (ready_of_services_iff answers discovering _).mpr ⟨_, _, first, second, enabled⟩
  | lost =>
    cases outcome with
    | ignored inert => exact absurd inert alert
    | disconnected => rfl

theorem states_reports (step : Step) : states step.reports = states step.events := by
  rw [Step.reports, states_append]
  cases step.result with
  | ok timer => exact List.append_nil _
  | error error => exact List.append_nil _

theorem Telling.once (telling : Telling machine event step) :
    states step.events = if machine.state = step.machine.state then [] else [step.machine.state] := by
  rw [← states_reports]
  cases telling with
  | moved differs said => rw [said, if_neg differs]
  | stayed link same said => rw [said, if_pos same.symm]
  | measured ready read decoded same said => simp [said, same]

/--
Handling an event takes a machine along the edge of which it is the event, if there is one, and otherwise
leaves the state as it is; a new state is told once and no other state is. A request to disconnect leaves
the phase as it is, connection and all, unless there is a scan to be stopped.
-/
theorem handle_follows_lifecycle (config : Config) (moments : List Moment) (answers : Answers)
    (event : Event) :
    let machine := (Machine.new config).run moments
    let step := machine.handle answers event
    (∀ target, Edge machine answers event target ↔
      machine.state ≠ target ∧ step.machine.state = target) ∧
    states step.events = (if machine.state = step.machine.state then [] else [step.machine.state]) ∧
    (machine.state = .scanning ∨ (machine.handle answers .disconnect).machine.phase = machine.phase) := by
  intro machine step
  have bracketed : machine.Bracketed := run_bracketed config moments
  have named : machine.scanner.target = machine.config.deviceName := by
    rw [run_target, run_config]
  have outcome : Outcome machine answers event step := handle_outcome machine answers event
  refine ⟨?_, (outcome.telling bracketed).once, ?_⟩
  · intro target
    constructor
    · intro edge
      exact ⟨edge.leaves, edge.taken bracketed named⟩
    · rintro ⟨moved, rfl⟩
      exact outcome.edge bracketed named moved
  · have asked := handle_outcome machine answers .disconnect
    generalize machine.handle answers .disconnect = step at asked ⊢
    cases asked with
    | scanStopped scanning => exact .inl (scanning_iff_state.mp scanning)
    | ignored | disconnectRequested => exact .inr rfl

end SpinnerRemote.Link
