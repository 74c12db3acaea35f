import SpinnerRemote.Link.Machine
import SpinnerRemote.Proofs.Link.Channels

/-!
All that handling one event can come to, said once: `Outcome` has a constructor for each way in which the
machine goes on, with what was true before and the whole step that follows, and `handle_outcome` shows
that there is no other. `Inert` says exactly when an event is passed over.
-/
namespace SpinnerRemote.Link

open Transport (Answers Call Connection Peripheral Service)

def Phase.AtRest : Phase → Prop
  | .idle | .disconnected _ => True
  | _ => False

theorem isConnected_iff_state {machine : Machine} : machine.isConnected = true ↔ machine.state = .ready := by
  unfold Machine.isConnected Machine.state
  cases machine.phase <;> simp [Phase.state]

namespace Machine

/-- The machine passes an event over. -/
def Inert (machine : Machine) (answers : Answers) : Event → Prop
  | .scan => answers.permission = true ∧ (machine.scanner.isScanning = true ∨ ¬machine.phase.AtRest)
  | .disconnect => machine.phase ≠ .scanning ∧ machine.phase.connection? = none
  | .send _ => machine.isConnected = false ∨ machine.isWritePending = true
  | .timer (.scanTimedOut scan) => machine.scanner.active ≠ some scan
  | .timer (.connectSettled attempt) => ∀ peripheral, machine.phase ≠ .connecting attempt peripheral none
  | .timer (.discoveryTimedOut attempt) =>
    ∀ peripheral connection found, machine.phase ≠ .discovering attempt peripheral connection found
  | .transport (.discovered peripheral) =>
    machine.phase ≠ .scanning ∨ machine.scanner.isTarget peripheral = false
  | .transport (.connected connection _) =>
    ∀ attempt peripheral, machine.phase ≠ .connecting attempt peripheral (some connection)
  | .transport (.disconnected connection _) => machine.phase.connection? ≠ some connection
  | .transport (.services connection _ _) =>
    ∀ attempt peripheral found, machine.phase ≠ .discovering attempt peripheral connection found
  | .transport (.written connection _ _) =>
    machine.phase.connection? ≠ some connection ∨ machine.isConnected = false
  | .transport (.notification connection characteristic bytes) =>
    ∀ peripheral channels pending rejected telemetry,
      machine.phase = .ready peripheral connection channels pending rejected →
      characteristic = channels.telemetry.uuid → Telemetry.decode bytes ≠ .ok telemetry

end Machine

/-- What handling an event comes to, one constructor for each way to go on. -/
inductive Outcome (machine : Machine) (answers : Answers) : Event → Step → Prop where
  | ignored {event : Event} (inert : machine.Inert answers event) :
      Outcome machine answers event machine.stay
  | scanForbidden (forbidden : answers.permission = false) :
      Outcome machine answers .scan
        { machine
          notices := [.scanForbidden]
          result := .error .permissionDenied }
  | scanRefused {error : Transport.Error} (permitted : answers.permission = true)
      (quiet : machine.scanner.isScanning = false) (resting : machine.phase.AtRest)
      (refused : answers.startScan machine.scanner.target = .error error) :
      Outcome machine answers .scan
        { machine
          calls := [.startScan machine.scanner.target (.error error)]
          notices := [.scanBegins machine.scanner.target]
          result := .error (.transport error) }
  | scanStarted (permitted : answers.permission = true)
      (quiet : machine.scanner.isScanning = false) (resting : machine.phase.AtRest)
      (accepted : answers.startScan machine.scanner.target = .ok ()) :
      Outcome machine answers .scan
        { machine :=
            { machine with
              scanner :=
                { machine.scanner with
                  active := some machine.scanner.nextId, nextId := machine.scanner.nextId + 1 }
              phase := .scanning }
          calls := [.startScan machine.scanner.target (.ok ())]
          notices := [.scanBegins machine.scanner.target]
          events := machine.announce .scanning ++ [.note .info "Scanning..."]
          result := .ok (some ⟨machine.config.scanTimeout, .scanTimedOut machine.scanner.nextId⟩) }
  | scanStopped (scanning : machine.phase = .scanning) :
      Outcome machine answers .disconnect
        { machine := { machine with scanner := machine.scanner.stop.1, phase := .idle }
          calls := machine.scanner.stop.2
          notices := machine.scanner.stopNotices
          events := machine.announce .idle ++ [.note .info "Scan stopped."] }
  | disconnectRequested {connection : Connection}
      (held : machine.phase.connection? = some connection) :
      Outcome machine answers .disconnect
        { machine := { machine with endAsked := true }
          calls := [.disconnect connection]
          notices := [.disconnecting connection]
          events := [.note .info "Disconnecting..."] }
  | wrote {frame : Frame} {peripheral : Peripheral} {connection : Connection} {channels : Channels}
      {rejected : Bool} (ready : machine.phase = .ready peripheral connection channels false rejected)
      (accepted : answers.write connection channels.config frame.encode = .ok ()) :
      Outcome machine answers (.send frame)
        { machine := { machine with phase := .ready peripheral connection channels true false }
          calls := [.write connection channels.config frame.encode (.ok ())] }
  | writeRefused {frame : Frame} {peripheral : Peripheral} {connection : Connection}
      {channels : Channels} {rejected : Bool} {error : Transport.Error}
      (ready : machine.phase = .ready peripheral connection channels false rejected)
      (refused : answers.write connection channels.config frame.encode = .error error) :
      Outcome machine answers (.send frame)
        { machine := { machine with phase := .ready peripheral connection channels false true }
          calls := [.write connection channels.config frame.encode (.error error)]
          result := if rejected then .ok none else .error (.writeRejected error.message) }
  | scanExpired {scan : Nat} (running : machine.scanner.active = some scan) :
      Outcome machine answers (.timer (.scanTimedOut scan))
        { machine := { machine with scanner := machine.scanner.stop.1, phase := .idle }
          calls := machine.scanner.stop.2
          notices := machine.scanner.stopNotices ++ [.scanExpired scan]
          events := machine.announce .idle
          result := .error .scanTimeout }
  | connectForbidden {attempt : Nat} {peripheral : Peripheral}
      (settling : machine.phase = .connecting attempt peripheral none)
      (forbidden : answers.permission = false) :
      Outcome machine answers (.timer (.connectSettled attempt))
        { machine := { machine with phase := .idle }
          notices := [.connectForbidden]
          events := machine.announce .idle
          result := .error .permissionDenied }
  | connectAccepted {attempt : Nat} {peripheral : Peripheral} {connection : Connection}
      (settling : machine.phase = .connecting attempt peripheral none)
      (permitted : answers.permission = true) (accepted : answers.connect peripheral = .ok connection) :
      Outcome machine answers (.timer (.connectSettled attempt))
        { machine := { machine with phase := .connecting attempt peripheral (some connection) }
          calls := [.connect peripheral (.ok connection)]
          notices := [.connecting peripheral]
          events := [.note .info "Connecting..."] }
  | connectRefused {attempt : Nat} {peripheral : Peripheral} {error : Transport.Error}
      (settling : machine.phase = .connecting attempt peripheral none)
      (permitted : answers.permission = true) (refused : answers.connect peripheral = .error error) :
      Outcome machine answers (.timer (.connectSettled attempt))
        { machine := { machine with phase := .disconnected .connectRejected }
          calls := [.connect peripheral (.error error)]
          notices := [.connecting peripheral, .connectRefused error]
          events := machine.announce (.disconnected .connectRejected)
          result := .error (.transport error) }
  | discoveryExpired {attempt : Nat} {peripheral : Peripheral} {connection : Connection}
      {found : PartialChannels}
      (discovering : machine.phase = .discovering attempt peripheral connection found) :
      Outcome machine answers (.timer (.discoveryTimedOut attempt))
        { machine := { machine with endAsked := true }
          calls := [.disconnect connection]
          notices := [.discoveryExpired found.missing]
          result := .error .discoveryIncomplete }
  | found {peripheral : Peripheral} (scanning : machine.phase = .scanning)
      (target : machine.scanner.isTarget peripheral = true) :
      Outcome machine answers (.transport (.discovered peripheral))
        { machine :=
            { machine with
              scanner := machine.scanner.stop.1
              phase := .connecting machine.nextAttempt peripheral none
              nextAttempt := machine.nextAttempt + 1 }
          calls := machine.scanner.stop.2
          notices := .found peripheral :: machine.scanner.stopNotices
          events := .note .info "Found device." ::
            machine.announce (.connecting machine.nextAttempt peripheral none)
          result := .ok (some ⟨machine.config.connectDelay, .connectSettled machine.nextAttempt⟩) }
  | connected {attempt : Nat} {peripheral : Peripheral} {connection : Connection} {status : Int}
      (connecting : machine.phase = .connecting attempt peripheral (some connection)) :
      Outcome machine answers (.transport (.connected connection status))
        { machine := { machine with phase := .discovering attempt peripheral connection {} }
          calls := [.discoverServices connection (answers.discoverServices connection)]
          notices := .connected ::
            (match answers.discoverServices connection with
            | .ok () => []
            | .error error => [.discoveryRefused error])
          events := machine.announce (.discovering attempt peripheral connection {}) ++
            .note .info "Discovering Services..." ::
            (match answers.discoverServices connection with
            | .ok () => []
            | .error error => [.note .warning s!"Service discovery failed: {error.message}"])
          result := .ok (machine.config.discoveryTimeout.map (⟨·, .discoveryTimedOut attempt⟩)) }
  | disconnected {connection : Connection} {status : Int}
      (held : machine.phase.connection? = some connection) :
      Outcome machine answers (.transport (.disconnected connection status))
        { machine := { machine with phase := .disconnected (.status status), endAsked := false }
          calls := [.close connection]
          notices := [if machine.isConnected && !machine.endAsked then .lost status else .ended status]
          events := machine.announce (.disconnected (.status status)) ++
            [.note .info s!"Disconnected (Code {status})"] }
  | servicesFailed {attempt : Nat} {peripheral : Peripheral} {connection : Connection}
      {found : PartialChannels} {status : Int} {services : List Service}
      (discovering : machine.phase = .discovering attempt peripheral connection found)
      (failed : status ≠ Transport.success) :
      Outcome machine answers (.transport (.services connection status services))
        { machine
          notices := [.discoveryFailed status] }
  | searchedWithoutTelemetry {attempt : Nat} {peripheral : Peripheral} {connection : Connection}
      {before : PartialChannels} {services : List Service}
      (discovering : machine.phase = .discovering attempt peripheral connection before)
      (missing : (PartialChannels.locate machine.config services).telemetry = none) :
      Outcome machine answers (.transport (.services connection Transport.success services))
        { machine :=
            { machine with
              phase := .discovering attempt peripheral connection
                (PartialChannels.locate machine.config services) }
          notices := [.channelsMissing (PartialChannels.locate machine.config services).missing] }
  | searched {attempt : Nat} {peripheral : Peripheral} {connection : Connection}
      {before : PartialChannels} {services : List Service} {telemetry : Transport.Characteristic}
      {enabled : Bool}
      (discovering : machine.phase = .discovering attempt peripheral connection before)
      (located : (PartialChannels.locate machine.config services).telemetry = some telemetry)
      (answer : answers.enableNotification connection telemetry = enabled)
      (incomplete : enabled = false ∨ (PartialChannels.locate machine.config services).complete? = none) :
      Outcome machine answers (.transport (.services connection Transport.success services))
        { machine :=
            { machine with
              phase := .discovering attempt peripheral connection
                (PartialChannels.locate machine.config services) }
          calls := [.enableNotification connection telemetry enabled]
          notices :=
            [if enabled then .channelsMissing (PartialChannels.locate machine.config services).missing
            else .notificationsRefused] }
  | becameReady {attempt : Nat} {peripheral : Peripheral} {connection : Connection}
      {before : PartialChannels} {services : List Service} {channels : Channels}
      (discovering : machine.phase = .discovering attempt peripheral connection before)
      (complete : (PartialChannels.locate machine.config services).complete? = some channels)
      (enabled : answers.enableNotification connection channels.telemetry = true) :
      Outcome machine answers (.transport (.services connection Transport.success services))
        { machine := { machine with phase := .ready peripheral connection channels false false }
          calls := [.enableNotification connection channels.telemetry true]
          notices := [.ready peripheral]
          events := machine.announce (.ready peripheral connection channels false false) ++
            [.note .success "Connected"] }
  | written {peripheral : Peripheral} {connection : Connection} {channels : Channels}
      {pending rejected : Bool} {characteristic : Uuid} {status : Int}
      (ready : machine.phase = .ready peripheral connection channels pending rejected) :
      Outcome machine answers (.transport (.written connection characteristic status))
        { machine := { machine with phase := .ready peripheral connection channels false rejected } }
  | measured {peripheral : Peripheral} {connection : Connection} {channels : Channels}
      {pending rejected : Bool} {bytes : List UInt8} {telemetry : Telemetry}
      (ready : machine.phase = .ready peripheral connection channels pending rejected)
      (decoded : Telemetry.decode bytes = .ok telemetry) :
      Outcome machine answers (.transport (.notification connection channels.telemetry.uuid bytes))
        { machine, events := [.telemetry telemetry] }

variable (machine : Machine) (answers : Answers)

theorem scan_outcome : Outcome machine answers .scan (machine.scan answers) := by
  unfold Machine.scan
  cases permitted : answers.permission with
  | false => simpa using .scanForbidden permitted
  | true =>
    cases quiet : machine.scanner.isScanning with
    | true => exact .ignored ⟨permitted, .inl quiet⟩
    | false =>
      have ignored (notIdle : machine.phase = .idle → False)
          (notOver : ∀ reason, machine.phase = .disconnected reason → False) :
          Outcome machine answers .scan machine.stay := by
        refine .ignored ⟨permitted, .inr ?_⟩
        intro resting
        cases phase : machine.phase with
        | idle => exact notIdle phase
        | disconnected reason => exact notOver reason phase
        | _ => simp [phase, Phase.AtRest] at resting
      simp only [Bool.not_true, Bool.false_eq_true, if_false]
      unfold Scanner.start Scanner.startCall
      cases answer : answers.startScan machine.scanner.target with
      | ok =>
        split
        next idle => exact .scanStarted permitted quiet (by rw [idle]; trivial) answer
        next reason ended => exact .scanStarted permitted quiet (by rw [ended]; trivial) answer
        next notIdle notOver => exact ignored notIdle notOver
      | error error =>
        split
        next idle => exact .scanRefused permitted quiet (by rw [idle]; trivial) answer
        next reason ended => exact .scanRefused permitted quiet (by rw [ended]; trivial) answer
        next notIdle notOver => exact ignored notIdle notOver

theorem disconnect_outcome : Outcome machine answers .disconnect machine.disconnect := by
  unfold Machine.disconnect
  split
  next scanning => exact .scanStopped scanning
  next elsewhere =>
    split
    next connection held => exact .disconnectRequested held
    next free => exact .ignored ⟨elsewhere, free⟩

theorem send_outcome (frame : Frame) :
    Outcome machine answers (.send frame) (machine.send answers frame) := by
  unfold Machine.send
  split
  next peripheral connection channels rejected ready =>
    cases answer : answers.write connection channels.config frame.encode with
    | ok => exact .wrote ready answer
    | error error => exact .writeRefused ready answer
  next blocked =>
    refine .ignored ?_
    cases phase : machine.phase with
    | ready peripheral connection channels pending rejected =>
      cases pending with
      | false => exact absurd phase (blocked _ _ _ _)
      | true => exact .inr (by simp [Machine.isWritePending, phase])
    | _ => exact .inl (by simp [Machine.isConnected, phase])

theorem timer_outcome (event : TimerEvent) :
    Outcome machine answers (.timer event) (machine.onTimer answers event) := by
  cases event with
  | scanTimedOut scan =>
    simp only [Machine.onTimer, Machine.scanTimedOut, Scanner.expires, beq_iff_eq]
    split
    next running => exact .scanExpired running
    next stale => exact .ignored stale
  | connectSettled attempt =>
    simp only [Machine.onTimer, Machine.connectSettled]
    split
    next current peripheral settling =>
      by_cases same : current = attempt
      · subst same
        cases permitted : answers.permission with
        | false => simpa using .connectForbidden settling permitted
        | true =>
          cases answer : answers.connect peripheral with
          | ok connection => simpa [answer] using .connectAccepted settling permitted answer
          | error error => simpa [answer] using .connectRefused settling permitted answer
      · simp only [same, ne_eq, not_false_eq_true, if_true]
        exact .ignored (by simp [Machine.Inert, settling, same])
    next other => exact .ignored (fun peripheral settling => other _ _ settling)
  | discoveryTimedOut attempt =>
    simp only [Machine.onTimer, Machine.discoveryTimedOut]
    split
    next current peripheral connection found discovering =>
      by_cases same : current = attempt
      · subst same
        simpa using .discoveryExpired discovering
      · simp only [same, ne_eq, not_false_eq_true, if_true]
        exact .ignored (by simp [Machine.Inert, discovering, same])
    next other => exact .ignored (fun _ _ _ discovering => other _ _ _ _ discovering)

theorem discovered_outcome (peripheral : Peripheral) :
    Outcome machine answers (.transport (.discovered peripheral)) (machine.onDiscovered peripheral) := by
  unfold Machine.onDiscovered
  split
  next robot => exact .found robot.1 robot.2
  next other =>
    refine .ignored ?_
    by_cases scanning : machine.phase = .scanning
    · exact .inr (by simpa [scanning] using other)
    · exact .inl scanning

theorem connected_outcome {connection : Connection} (status : Int)
    (held : machine.phase.connection? = some connection) :
    Outcome machine answers (.transport (.connected connection status))
      (machine.onConnected answers connection) := by
  unfold Machine.onConnected
  split
  next attempt peripheral current connecting =>
    have same : current = some connection := by simpa [connecting, Phase.connection?] using held
    subst same
    exact .connected connecting
  next other => exact .ignored (fun _ _ connecting => other _ _ _ connecting)

theorem services_outcome {connection : Connection} (status : Int) (services : List Service)
    (held : machine.phase.connection? = some connection) :
    Outcome machine answers (.transport (.services connection status services))
      (machine.onServices answers status services) := by
  unfold Machine.onServices
  split
  next attempt peripheral current before discovering =>
    have same : current = connection := by simpa [discovering, Phase.connection?] using held
    subst same
    by_cases failed : status ≠ Transport.success
    · simpa [failed] using .servicesFailed discovering failed
    · obtain rfl : status = Transport.success := by simpa using failed
      cases located : (PartialChannels.locate machine.config services).telemetry with
      | none => simpa [located] using .searchedWithoutTelemetry discovering located
      | some telemetry =>
        cases answer : answers.enableNotification current telemetry with
        | false => simpa [located, answer] using .searched discovering located answer (.inl rfl)
        | true =>
          cases complete : (PartialChannels.locate machine.config services).complete? with
          | none =>
            simpa [located, answer, complete] using .searched discovering located answer (.inr complete)
          | some channels =>
            obtain rfl : telemetry = channels.telemetry := by
              simpa [located] using (complete?_eq_some.mp complete).1
            simpa [located, answer, complete] using .becameReady discovering complete answer
  next other => exact .ignored (fun _ _ _ discovering => other _ _ _ _ discovering)

theorem written_outcome {connection : Connection} (characteristic : Uuid) (status : Int)
    (held : machine.phase.connection? = some connection) :
    Outcome machine answers (.transport (.written connection characteristic status)) machine.onWritten := by
  unfold Machine.onWritten
  split
  next peripheral current channels pending rejected ready =>
    have same : current = connection := by simpa [ready, Phase.connection?] using held
    subst same
    exact .written ready
  next other =>
    refine .ignored (.inr ?_)
    cases phase : machine.phase with
    | ready => exact absurd phase (other _ _ _ _ _)
    | _ => simp [Machine.isConnected, phase]

theorem notification_outcome {connection : Connection} (characteristic : Uuid) (bytes : List UInt8)
    (held : machine.phase.connection? = some connection) :
    Outcome machine answers (.transport (.notification connection characteristic bytes))
      (machine.onNotification characteristic bytes) := by
  unfold Machine.onNotification Machine.channels?
  cases phase : machine.phase with
  | ready peripheral current channels pending rejected =>
    have same : current = connection := by simpa [phase, Phase.connection?] using held
    subst same
    by_cases subscribed : characteristic = channels.telemetry.uuid
    · subst subscribed
      cases decoded : Telemetry.decode bytes with
      | ok telemetry => simpa [decoded] using .measured phase decoded
      | error error => simpa [decoded] using .ignored (by simp [Machine.Inert, decoded])
    · have inert : machine.Inert answers (.transport (.notification current characteristic bytes)) := by
        intro _ _ _ _ _ ready same
        rw [phase] at ready
        cases ready
        exact absurd same subscribed
      simpa [subscribed] using .ignored inert
  | _ => exact .ignored (by simp [Machine.Inert, phase])

theorem stale_inert {event : Transport.Event} {connection : Connection}
    (belongs : event.connection? = some connection)
    (stale : machine.phase.connection? ≠ some connection) :
    machine.Inert answers (.transport event) := by
  cases event with
  | discovered => cases belongs
  | connected | services | notification =>
    cases belongs
    simp only [Machine.Inert]
    grind [Phase.connection?]
  | disconnected => cases belongs; exact stale
  | written => cases belongs; exact .inl stale

theorem transport_outcome (event : Transport.Event) :
    Outcome machine answers (.transport event) (machine.onTransport answers event) := by
  unfold Machine.onTransport Machine.concerns
  cases belongs : event.connection? with
  | none =>
    cases event with
    | discovered peripheral => exact discovered_outcome machine answers peripheral
    | _ => cases belongs
  | some connection =>
    by_cases held : machine.phase.connection? = some connection
    · simp only [held, beq_self_eq_true, if_true]
      cases event with
      | discovered => cases belongs
      | connected current status => cases belongs; exact connected_outcome machine answers status held
      | disconnected current status => cases belongs; exact .disconnected held
      | services current status services =>
        cases belongs
        exact services_outcome machine answers status services held
      | written current characteristic status =>
        cases belongs
        exact written_outcome machine answers characteristic status held
      | notification current characteristic bytes =>
        cases belongs
        exact notification_outcome machine answers characteristic bytes held
    · simpa [held] using .ignored (stale_inert machine answers belongs held)

theorem handle_outcome (event : Event) : Outcome machine answers event (machine.handle answers event) := by
  cases event with
  | scan => exact scan_outcome machine answers
  | disconnect => exact disconnect_outcome machine answers
  | send frame => exact send_outcome machine answers frame
  | timer event => exact timer_outcome machine answers event
  | transport event => exact transport_outcome machine answers event

end SpinnerRemote.Link
