import SpinnerRemote.Link.Channels
import SpinnerRemote.Link.Scanner
import SpinnerRemote.Link.State

/-!
The link to the robot as a machine that takes one event at a time: requests of the operator and of the
control loop, timers that have run out, and what the radio reports.

`Machine.handle` is given the radio's answers and yields a `Step`: the machine afterwards, the calls it
made, what it logs, the events for the display, and either a timer to set or an error. The machine
connects a while after it has found the robot, is ready once both channels are found and telemetry is
switched on, and has at most one write under way. Events of a connection that the machine does not hold
are passed over, and so are timers of an earlier scan or attempt.
-/
namespace SpinnerRemote.Link

open Transport (Answers Call Connection Peripheral Service)

/-- A timer, by the scan or the attempt for which it was set. -/
inductive TimerEvent where
  | scanTimedOut (scan : Nat)
  | connectSettled (attempt : Nat)
  | discoveryTimedOut (attempt : Nat)
  deriving DecidableEq, Repr

structure Timer where
  after : Nat
  event : TimerEvent
  deriving DecidableEq, Repr

inductive Event where
  | scan
  | disconnect
  | send (frame : Frame)
  | timer (event : TimerEvent)
  | transport (event : Transport.Event)
  deriving DecidableEq, Repr

inductive Phase where
  | idle
  | scanning
  /-- A peripheral was found; a connection is held once connecting has begun. -/
  | connecting (attempt : Nat) (peripheral : Peripheral) (connection : Option Connection)
  | discovering (attempt : Nat) (peripheral : Peripheral) (connection : Connection)
      (found : PartialChannels)
  /-- `rejected` is set by a refused write until the next accepted one. -/
  | ready (peripheral : Peripheral) (connection : Connection) (channels : Channels)
      (pending rejected : Bool)
  | disconnected (reason : DisconnectReason)
  deriving DecidableEq, Repr

namespace Phase

def state : Phase → State
  | .idle => .idle
  | .scanning => .scanning
  | .connecting .. => .connecting
  | .discovering .. => .discovering
  | .ready .. => .ready
  | .disconnected reason => .disconnected reason

def connection? : Phase → Option Connection
  | .connecting _ _ connection => connection
  | .discovering _ _ connection _ => some connection
  | .ready _ connection _ _ _ => some connection
  | _ => none

end Phase

/-- The link. Attempts are numbered as scans are, without a bound that a run could come to. -/
structure Machine where
  config : Config
  scanner : Scanner
  phase : Phase := .idle
  nextAttempt : Nat := 1
  /-- The connection that is held was asked to end, so its end will be no loss. -/
  endAsked : Bool := false
  deriving DecidableEq, Repr

structure Step where
  machine : Machine
  calls : List Call := []
  notices : List Notice := []
  events : List AppEvent := []
  result : Except Error (Option Timer) := .ok none

namespace Machine

def new (config : Config) : Machine where
  config := config
  scanner := { target := config.deviceName }

def state (machine : Machine) : State := machine.phase.state

def isConnected (machine : Machine) : Bool :=
  match machine.phase with
  | .ready .. => true
  | _ => false

def isWritePending (machine : Machine) : Bool :=
  match machine.phase with
  | .ready _ _ _ pending _ => pending
  | _ => false

def channels? (machine : Machine) : Option Channels :=
  match machine.phase with
  | .ready _ _ channels _ _ => some channels
  | _ => none

def partialChannels? (machine : Machine) : Option PartialChannels :=
  match machine.phase with
  | .discovering _ _ _ found => some found
  | _ => none

def stay (machine : Machine) : Step := { machine }

def announce (machine : Machine) (phase : Phase) : List AppEvent :=
  if machine.state = phase.state then [] else [.state phase.state]

/-- Starts to look for the robot. Permission is asked for first; a link that is under way is left alone. -/
def scan (machine : Machine) (answers : Answers) : Step :=
  if !answers.permission then
    { machine, notices := [.scanForbidden], result := .error .permissionDenied }
  else if machine.scanner.isScanning then machine.stay
  else
    match machine.phase with
    | .idle | .disconnected _ =>
      let call := machine.scanner.startCall answers
      match machine.scanner.start answers with
      | (scanner, .ok id) =>
        { machine := { machine with scanner, phase := .scanning }
          calls := [call]
          notices := [machine.scanner.startNotice]
          events := machine.announce .scanning ++ [.note .info "Scanning..."]
          result := .ok (some ⟨machine.config.scanTimeout, .scanTimedOut id⟩) }
      | (scanner, .error error) =>
        { machine := { machine with scanner }
          calls := [call]
          notices := [machine.scanner.startNotice]
          result := .error (.transport error) }
    | _ => machine.stay

/--
Asks for the end of the link. A scan is stopped at once; a connection ends when the radio reports it.
Before connecting has begun there is nothing to end.
-/
def disconnect (machine : Machine) : Step :=
  match machine.phase with
  | .scanning =>
    let (scanner, calls) := machine.scanner.stop
    { machine := { machine with scanner, phase := .idle }
      calls
      notices := machine.scanner.stopNotices
      events := machine.announce .idle ++ [.note .info "Scan stopped."] }
  | phase =>
    match phase.connection? with
    | some connection =>
      { machine := { machine with endAsked := true }
        calls := [.disconnect connection]
        notices := [.disconnecting connection]
        events := [.note .info "Disconnecting..."] }
    | none => machine.stay

/--
Writes a frame, unless the link is not ready or a write is under way. Of a run of refusals only the first
is an error.
-/
def send (machine : Machine) (answers : Answers) (frame : Frame) : Step :=
  match machine.phase with
  | .ready peripheral connection channels false rejected =>
    let answer := answers.write connection channels.config frame.encode
    let call := Call.write connection channels.config frame.encode answer
    match answer with
    | .ok () =>
      { machine := { machine with phase := .ready peripheral connection channels true false }
        calls := [call] }
    | .error error =>
      { machine := { machine with phase := .ready peripheral connection channels false true }
        calls := [call]
        result := if rejected then .ok none else .error (.writeRejected error.message) }
  | _ => machine.stay

def scanTimedOut (machine : Machine) (id : Nat) : Step :=
  if machine.scanner.expires id then
    let (scanner, calls) := machine.scanner.stop
    { machine := { machine with scanner, phase := .idle }
      calls
      notices := machine.scanner.stopNotices ++ [.scanExpired id]
      events := machine.announce .idle
      result := .error .scanTimeout }
  else machine.stay

def connectSettled (machine : Machine) (answers : Answers) (attempt : Nat) : Step :=
  match machine.phase with
  | .connecting current peripheral none =>
    if current ≠ attempt then machine.stay
    else if !answers.permission then
      { machine := { machine with phase := .idle }
        notices := [.connectForbidden]
        events := machine.announce .idle
        result := .error .permissionDenied }
    else
      let answer := answers.connect peripheral
      let call := Call.connect peripheral answer
      match answer with
      | .ok connection =>
        { machine := { machine with phase := .connecting attempt peripheral (some connection) }
          calls := [call]
          notices := [.connecting peripheral]
          events := [.note .info "Connecting..."] }
      | .error error =>
        { machine := { machine with phase := .disconnected .connectRejected }
          calls := [call]
          notices := [.connecting peripheral, .connectRefused error]
          events := machine.announce (.disconnected .connectRejected)
          result := .error (.transport error) }
  | _ => machine.stay

def discoveryTimedOut (machine : Machine) (attempt : Nat) : Step :=
  match machine.phase with
  | .discovering current _ connection found =>
    if current ≠ attempt then machine.stay
    else
      { machine := { machine with endAsked := true }
        calls := [.disconnect connection]
        notices := [.discoveryExpired found.missing]
        result := .error .discoveryIncomplete }
  | _ => machine.stay

def onTimer (machine : Machine) (answers : Answers) : TimerEvent → Step
  | .scanTimedOut scan => machine.scanTimedOut scan
  | .connectSettled attempt => machine.connectSettled answers attempt
  | .discoveryTimedOut attempt => machine.discoveryTimedOut attempt

def onDiscovered (machine : Machine) (peripheral : Peripheral) : Step :=
  if machine.phase = .scanning ∧ machine.scanner.isTarget peripheral then
    let (scanner, calls) := machine.scanner.stop
    let attempt := machine.nextAttempt
    let phase := Phase.connecting attempt peripheral none
    { machine := { machine with scanner, phase, nextAttempt := attempt + 1 }
      calls
      notices := .found peripheral :: machine.scanner.stopNotices
      events := .note .info "Found device." :: machine.announce phase
      result := .ok (some ⟨machine.config.connectDelay, .connectSettled attempt⟩) }
  else machine.stay

def onConnected (machine : Machine) (answers : Answers) (connection : Connection) : Step :=
  match machine.phase with
  | .connecting attempt peripheral _ =>
    let phase := Phase.discovering attempt peripheral connection {}
    let answer := answers.discoverServices connection
    { machine := { machine with phase }
      calls := [.discoverServices connection answer]
      notices := .connected ::
        (match answer with
        | .ok () => []
        | .error error => [.discoveryRefused error])
      events := machine.announce phase ++ .note .info "Discovering Services..." ::
        (match answer with
        | .ok () => []
        | .error error => [.note .warning s!"Service discovery failed: {error.message}"])
      result := .ok (machine.config.discoveryTimeout.map (⟨·, .discoveryTimedOut attempt⟩)) }
  | _ => machine.stay

/-- The connection has ended: a loss if it was ready and nobody asked for its end. -/
def onDisconnected (machine : Machine) (connection : Connection) (status : Int) : Step :=
  let phase := Phase.disconnected (.status status)
  { machine := { machine with phase, endAsked := false }
    calls := [.close connection]
    notices := [if machine.isConnected && !machine.endAsked then .lost status else .ended status]
    events := machine.announce phase ++ [.note .info s!"Disconnected (Code {status})"] }

/--
The services are known. A telemetry channel is switched on as soon as it is found; the link is ready when
that is accepted and the config channel is there too.
-/
def onServices (machine : Machine) (answers : Answers) (status : Int) (services : List Service) : Step :=
  match machine.phase with
  | .discovering attempt peripheral connection _ =>
    if status ≠ Transport.success then { machine, notices := [.discoveryFailed status] }
    else
      let found := PartialChannels.locate machine.config services
      let searching := { machine with phase := .discovering attempt peripheral connection found }
      match found.telemetry with
      | none => { machine := searching, notices := [.channelsMissing found.missing] }
      | some telemetry =>
        let accepted := answers.enableNotification connection telemetry
        let calls := [Call.enableNotification connection telemetry accepted]
        match accepted, found.complete? with
        | false, _ => { machine := searching, calls, notices := [.notificationsRefused] }
        | true, none => { machine := searching, calls, notices := [.channelsMissing found.missing] }
        | true, some channels =>
          let phase := Phase.ready peripheral connection channels false false
          { machine := { machine with phase }
            calls
            notices := [.ready peripheral]
            events := machine.announce phase ++ [.note .success "Connected"] }
  | _ => machine.stay

/-- A write has ended, well or not, and the next one may begin. -/
def onWritten (machine : Machine) : Step :=
  match machine.phase with
  | .ready peripheral connection channels _ rejected =>
    { machine := { machine with phase := .ready peripheral connection channels false rejected } }
  | _ => machine.stay

def onNotification (machine : Machine) (characteristic : Uuid) (bytes : List UInt8) : Step :=
  match machine.channels? with
  | some channels =>
    if characteristic = channels.telemetry.uuid then
      match Telemetry.decode bytes with
      | .ok telemetry => { machine, events := [.telemetry telemetry] }
      | .error _ => machine.stay
    else machine.stay
  | none => machine.stay

def concerns (machine : Machine) (event : Transport.Event) : Bool :=
  match event.connection? with
  | some connection => machine.phase.connection? == some connection
  | none => true

def onTransport (machine : Machine) (answers : Answers) (event : Transport.Event) : Step :=
  if machine.concerns event then
    match event with
    | .discovered peripheral => machine.onDiscovered peripheral
    | .connected connection _ => machine.onConnected answers connection
    | .disconnected connection status => machine.onDisconnected connection status
    | .services _ status services => machine.onServices answers status services
    | .written .. => machine.onWritten
    | .notification _ characteristic bytes => machine.onNotification characteristic bytes
  else machine.stay

def handle (machine : Machine) (answers : Answers) : Event → Step
  | .scan => machine.scan answers
  | .disconnect => machine.disconnect
  | .send frame => machine.send answers frame
  | .timer event => machine.onTimer answers event
  | .transport event => machine.onTransport answers event

end Machine

def Step.wrote (step : Step) : Bool :=
  step.calls.any fun
    | .write _ _ _ (.ok ()) => true
    | _ => false

end SpinnerRemote.Link
