import Mathlib.Data.List.Chain
import Mathlib.Data.List.DropRight
import SpinnerRemote.Console.Dashboard
import SpinnerRemote.Proofs.Link.Handles
import SpinnerRemote.Proofs.Link.Service

/-!
The views of the link: the state that the service shows, the states that were sent to the display, and the
dashboard that folds everything sent. `views_agree` shows that they are the machine's own state after each
event, and that the dashboard's telemetry is that of the present link or none.
-/
namespace SpinnerRemote.Link

open Transport (Answers Connection)
open Console (Dashboard)

def AppEvent.state? : AppEvent → Option State
  | .state current => some current
  | _ => none

def AppEvent.telemetry? : AppEvent → Option Telemetry
  | .telemetry measured => some measured
  | _ => none

def states (events : List AppEvent) : List State := events.filterMap AppEvent.state?

def measurements (events : List AppEvent) : List Telemetry := events.filterMap AppEvent.telemetry?

def lastState (events : List AppEvent) : State := (states events).getLast?.getD .idle

def shown (events : List AppEvent) : Dashboard := events.foldl Dashboard.apply {}

def Machine.ready? (machine : Machine) : Option (Connection × Channels) :=
  match machine.phase with
  | .ready _ connection channels _ _ => some (connection, channels)
  | _ => none

def Event.reading? (connection : Connection) (characteristic : Uuid) : Event → Option (List UInt8)
  | .transport (.notification source channel bytes) =>
    if source = connection ∧ channel = characteristic ∧ 3 ≤ bytes.length then some bytes else none
  | _ => none

/-- The last turns of a run, as far back as the link was ready before them. -/
def sinceReady (turns : List Turn) : List Turn := turns.rtakeWhile (·.before.isConnected)

/-- The telemetry of the present link: what its last reading since it became ready decodes to. -/
def currentTelemetry (config : Config) (moments : List Moment) : Option Telemetry :=
  match ((Machine.new config).run moments).ready? with
  | some (connection, channels) =>
    (((sinceReady ((Machine.new config).history moments)).filterMap
      (·.moment.event.reading? connection channels.telemetry.uuid)).getLast?).bind
        fun bytes => (Telemetry.decode bytes).toOption
  | none => none

@[simp] theorem states_append (events more : List AppEvent) :
    states (events ++ more) = states events ++ states more := List.filterMap_append

@[simp] theorem measurements_append (events more : List AppEvent) :
    measurements (events ++ more) = measurements events ++ measurements more := List.filterMap_append

@[simp] theorem states_note (severity : Severity) (text : String) (events : List AppEvent) :
    states (.note severity text :: events) = states events := rfl

@[simp] theorem measurements_note (severity : Severity) (text : String) (events : List AppEvent) :
    measurements (.note severity text :: events) = measurements events := rfl

@[simp] theorem states_telemetry (telemetry : Telemetry) (events : List AppEvent) :
    states (.telemetry telemetry :: events) = states events := rfl

@[simp] theorem states_nil : states [] = [] := rfl

@[simp] theorem measurements_nil : measurements [] = [] := rfl

theorem states_announce {machine : Machine} {phase : Phase} (differs : machine.state ≠ phase.state) :
    states (machine.announce phase) = [phase.state] := by
  simp [Machine.announce, differs, states, AppEvent.state?]

@[simp] theorem measurements_announce (machine : Machine) (phase : Phase) :
    measurements (machine.announce phase) = [] := by
  unfold Machine.announce
  split <;> rfl

/-! Folding events into a dashboard. -/

theorem foldl_apply_link (events : List AppEvent) (dashboard : Dashboard) :
    (events.foldl Dashboard.apply dashboard).link = (states events).getLast?.getD dashboard.link := by
  induction events using List.reverseRecOn with
  | nil => rfl
  | append_singleton events event ih =>
    rw [List.foldl_append, states_append]
    cases event with
    | state current => simp [states, AppEvent.state?, Dashboard.apply]
    | telemetry | log => simpa [states, AppEvent.state?, Dashboard.apply] using ih

theorem shown_link (events : List AppEvent) : (shown events).link = lastState events :=
  foldl_apply_link events {}

theorem foldl_apply_telemetry {events : List AppEvent} (silent : measurements events = [])
    (dashboard : Dashboard) :
    (events.foldl Dashboard.apply dashboard).telemetry =
      if states events = [] then dashboard.telemetry else none := by
  induction events generalizing dashboard with
  | nil => rfl
  | cons event rest ih =>
    have quiet : measurements rest = [] := (List.append_eq_nil_iff.mp
      (measurements_append [event] rest ▸ silent : measurements [event] ++ measurements rest = [])).2
    rw [List.foldl_cons, ih quiet]
    cases event with
    | state current => simp [states, AppEvent.state?, Dashboard.apply]
    | telemetry measured => cases silent
    | log message => rfl

/-! What one event tells the display. -/

theorem decode_ok_of_enough {bytes : List UInt8} (enough : 3 ≤ bytes.length) :
    ∃ telemetry, Telemetry.decode bytes = .ok telemetry := by
  match bytes, enough with
  | _ :: _ :: _ :: _, _ => exact ⟨_, rfl⟩

theorem enough_of_decode_ok {bytes : List UInt8} {telemetry : Telemetry}
    (decoded : Telemetry.decode bytes = .ok telemetry) : 3 ≤ bytes.length := by
  match bytes, decoded with
  | _ :: _ :: _ :: _, _ => simp

variable {machine : Machine} {answers : Answers} {event : Event} {step : Step}

/-- An event either moves the link to another state, which is told and nothing else is; or leaves the link
as it is and untold; or brings telemetry of a ready link, which is told. -/
inductive Telling (machine : Machine) (event : Event) (step : Step) : Prop
  | moved (differs : machine.state ≠ step.machine.state)
      (said : states step.reports = [step.machine.state]) (silent : measurements step.reports = [])
  | stayed (link : step.machine.ready? = machine.ready?) (same : step.machine.state = machine.state)
      (said : states step.reports = []) (silent : measurements step.reports = [])
      (unread : ∀ connection channels, machine.ready? = some (connection, channels) →
        event.reading? connection channels.telemetry.uuid = none)
  | measured {connection : Connection} {channels : Channels} {bytes : List UInt8} {telemetry : Telemetry}
      (ready : machine.ready? = some (connection, channels))
      (read : event.reading? connection channels.telemetry.uuid = some bytes)
      (decoded : Telemetry.decode bytes = .ok telemetry) (same : step.machine = machine)
      (said : step.reports = [.telemetry telemetry])

theorem ready?_eq_some {connection : Connection} {channels : Channels} :
    machine.ready? = some (connection, channels) ↔
      ∃ peripheral pending rejected,
        machine.phase = .ready peripheral connection channels pending rejected := by
  unfold Machine.ready?
  cases machine.phase <;> simp

theorem unread_of_inert (inert : machine.Inert answers event) (connection : Connection)
    (channels : Channels) (ready : machine.ready? = some (connection, channels)) :
    event.reading? connection channels.telemetry.uuid = none := by
  obtain ⟨peripheral, pending, rejected, phase⟩ := ready?_eq_some.mp ready
  unfold Event.reading?
  split
  next source channel bytes =>
    refine if_neg ?_
    rintro ⟨rfl, same, enough⟩
    obtain ⟨telemetry, decoded⟩ := decode_ok_of_enough enough
    exact inert _ _ _ _ telemetry phase same decoded
  next => rfl

theorem telling_of_announce {phase : Phase} (enters : step.machine.phase = phase)
    (differs : machine.phase.state ≠ phase.state)
    (said : states step.reports = states (machine.announce phase))
    (silent : measurements step.reports = []) : Telling machine event step := by
  subst enters
  exact .moved differs (said.trans (states_announce differs)) silent

theorem state_of_held {phase : Phase} {connection : Connection}
    (held : phase.connection? = some connection) (reason : DisconnectReason) :
    phase.state ≠ .disconnected reason := by
  cases phase <;> simp_all [Phase.connection?, Phase.state]

theorem state_of_rest {phase : Phase} (resting : phase.AtRest) : phase.state ≠ .scanning := by
  cases phase <;> simp_all [Phase.AtRest, Phase.state]

theorem Outcome.telling (outcome : Outcome machine answers event step) (bracketed : machine.Bracketed) :
    Telling machine event step := by
  cases outcome with
  | ignored inert => exact .stayed rfl rfl rfl rfl (unread_of_inert inert)
  | scanForbidden | scanRefused | disconnectRequested | discoveryExpired =>
    exact .stayed rfl rfl rfl rfl (fun _ _ _ => rfl)
  | wrote ready | written ready =>
    exact .stayed (by simp [Machine.ready?, ready]) (by simp [Machine.state, ready, Phase.state]) rfl rfl
      (fun _ _ _ => rfl)
  | @writeRefused frame _ _ _ rejected error ready =>
    refine .stayed (by simp [Machine.ready?, ready]) (by simp [Machine.state, ready, Phase.state]) ?_ ?_
      (fun _ _ _ => rfl)
    · cases rejected <;> rfl
    · cases rejected <;> rfl
  | connectAccepted phase | servicesFailed phase | searchedWithoutTelemetry phase | searched phase =>
    exact .stayed (by simp [Machine.ready?, phase]) (by simp [Machine.state, phase, Phase.state]) rfl rfl
      (fun _ _ _ => rfl)
  | measured ready decoded =>
    exact .measured (ready?_eq_some.mpr ⟨_, _, _, ready⟩)
      (by simp [Event.reading?, enough_of_decode_ok decoded]) decoded rfl rfl
  | scanStarted _ _ resting =>
    exact telling_of_announce rfl (state_of_rest resting) (by simp [Step.reports]) (by simp [Step.reports])
  | scanExpired running =>
    have scanning := bracketed.scanning running
    exact telling_of_announce rfl (by simp [scanning, Phase.state])
      (by simp [Step.reports, Error.report]) (by simp [Step.reports, Error.report])
  | disconnected held =>
    exact telling_of_announce rfl (state_of_held held _) (by simp [Step.reports]) (by simp [Step.reports])
  | @connected _ _ connection status phase =>
    refine telling_of_announce rfl (by simp [phase, Phase.state]) ?_ ?_
    · cases answers.discoverServices connection <;> simp [Step.reports]
    · cases answers.discoverServices connection <;> simp [Step.reports]
  | scanStopped phase | connectForbidden phase | connectRefused phase | found phase | becameReady phase =>
    exact telling_of_announce rfl (by simp [phase, Phase.state])
      (by simp [Step.reports, Error.report]) (by simp [Step.reports, Error.report])

/-! A run of the service. -/

theorem Telling.last {events : List AppEvent} (telling : Telling machine event step)
    (last : lastState events = machine.state) :
    lastState (events ++ step.reports) = step.machine.state := by
  unfold lastState at *
  cases telling with
  | moved differs said => simp [said]
  | stayed link same said => simpa [said, same] using last
  | measured ready read decoded same said => simpa [said, same] using last

theorem Telling.chain {events : List AppEvent} (telling : Telling machine event step)
    (last : lastState events = machine.state) (chain : (states events).IsChain (· ≠ ·)) :
    (states (events ++ step.reports)).IsChain (· ≠ ·) := by
  rw [states_append]
  cases telling with
  | moved differs said =>
    rw [said]
    refine chain.append (List.isChain_singleton _) ?_
    intro before final next first
    have told : before = machine.state := by simpa [lastState, Option.mem_def.mp final] using last
    have moved : next = step.machine.state := by simpa using first.symm
    rw [told, moved]
    exact differs
  | stayed link same said => simpa [said] using chain
  | measured ready read decoded same said => simpa [said] using chain

theorem isConnected_of_ready {connection : Connection} {channels : Channels}
    (ready : machine.ready? = some (connection, channels)) : machine.isConnected = true := by
  obtain ⟨_, _, _, phase⟩ := ready?_eq_some.mp ready
  simp [Machine.isConnected, phase]

theorem Telling.telemetry {config : Config} {moments : List Moment} {moment : Moment}
    {events : List AppEvent}
    (telling : Telling ((Machine.new config).run moments) moment.event
      (Turn.mk ((Machine.new config).run moments) moment).step)
    (known : (shown events).telemetry = currentTelemetry config moments) :
    (shown (events ++ (Turn.mk ((Machine.new config).run moments) moment).step.reports)).telemetry =
      currentTelemetry config (moments ++ [moment]) := by
  unfold currentTelemetry at known ⊢
  rw [Machine.run_snoc, Machine.history_snoc, sinceReady, List.rtakeWhile_concat, shown,
    List.foldl_append]
  cases telling with
  | moved differs said silent =>
    rw [foldl_apply_telemetry silent, said, if_neg (List.cons_ne_nil _ _)]
    split
    next connection channels ready =>
      -- The link has just become ready, so no earlier turn counts.
      have before : ((Machine.new config).run moments).isConnected = false := by
        have after := isConnected_iff_state.mp (isConnected_of_ready ready)
        rw [← Bool.not_eq_true, isConnected_iff_state]
        exact fun connected => differs (connected.trans after.symm)
      simp [before]
    next => rfl
  | stayed link same said silent unread =>
    rw [foldl_apply_telemetry silent, said, if_pos rfl, link, ← shown, known]
    split
    next connection channels ready =>
      simp [isConnected_of_ready ready, unread connection channels ready, sinceReady]
    next => rfl
  | measured ready read decoded same said =>
    rw [said, same, ready]
    simp [isConnected_of_ready ready, read, decoded, Dashboard.apply, Except.toOption]

/--
After each event the state that is shown, the machine's state and the state that was sent last are the
same, no state is sent twice in a row, and the dashboard of all that was sent shows that state, with the
telemetry of the present link.
-/
theorem views_agree (config : Config) (moments : List Moment) :
    (Service.run config moments).published = (Service.run config moments).machine.state ∧
      lastState (Service.run config moments).events = (Service.run config moments).machine.state ∧
      (states (Service.run config moments).events).IsChain (· ≠ ·) ∧
      (shown (Service.run config moments).events).link = (Service.run config moments).machine.state ∧
      (shown (Service.run config moments).events).telemetry = currentTelemetry config moments := by
  have agree : (Service.run config moments).published = (Service.run config moments).machine.state ∧
      lastState (Service.run config moments).events = (Service.run config moments).machine.state ∧
      (states (Service.run config moments).events).IsChain (· ≠ ·) ∧
      (shown (Service.run config moments).events).telemetry = currentTelemetry config moments := by
    induction moments using List.reverseRecOn with
    | nil => exact ⟨rfl, rfl, List.isChain_nil, rfl⟩
    | append_singleton moments moment ih =>
      obtain ⟨-, last, chain, telemetry⟩ := ih
      rw [Service.run_snoc]
      rw [Service.run_machine] at last
      have telling := (handle_outcome ((Machine.new config).run moments) moment.answers
        moment.event).telling (run_bracketed config moments)
      unfold Service.dispatch
      rw [Service.run_machine]
      exact ⟨rfl, telling.last last, telling.chain last chain, telling.telemetry telemetry⟩
  obtain ⟨published, last, chain, telemetry⟩ := agree
  exact ⟨published, last, chain, (shown_link _).trans last, telemetry⟩

end SpinnerRemote.Link
