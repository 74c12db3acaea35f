import SpinnerRemote.Link.Machine
import SpinnerRemote.Robot.Simulator

/-!
The link at work: the machine, the simulated robot, the timers that are set, and the queue through which
every request, timer and radio event reaches the machine, one at a time and in order.

Time is in milliseconds and moves only from one due job or timer to the next; handling takes none. What
the link did to the radio and what it told the display are kept with their times, what it logged without.
-/
namespace SpinnerRemote

open Transport (Call)

structure Station where
  now : Nat := 0
  machine : Link.Machine
  robot : Robot.Simulator
  queue : List Link.Event := []
  timers : List (Nat × Link.TimerEvent) := []
  /-- The state that is shown to the control loop and the console. -/
  published : Link.State := .idle
  calls : List (Nat × Call) := []
  events : List (Nat × Link.AppEvent) := []
  records : List Log.Record := []

namespace Station

def new (config : Link.Config) (robot : Robot.Simulator) : Station where
  machine := Link.Machine.new config
  robot := robot

def isConnected (station : Station) : Bool := station.published == .ready

def enqueue (station : Station) (events : List Link.Event) : Station :=
  { station with queue := station.queue ++ events }

def request (station : Station) (event : Link.Event) : Station := station.enqueue [event]

def absorb (station : Station) (step : Link.Step) : Station :=
  { station with
    machine := step.machine
    robot := step.calls.foldl (·.perform station.now ·) station.robot
    calls := station.calls ++ step.calls.map (station.now, ·)
    events := station.events ++ step.events.map (station.now, ·)
    records := station.records ++ step.notices.map (·.record) }

def settleResult (station : Station) : Except Link.Error (Option Link.Timer) → Station
  | .ok none => station
  | .ok (some timer) =>
    { station with timers := station.timers ++ [(station.now + timer.after, timer.event)] }
  | .error error =>
    { station with
      events := station.events ++ [(station.now, error.report)]
      records := station.records ++ [error.record] }

def publish (station : Station) : Station := { station with published := station.machine.state }

def dispatch (station : Station) (event : Link.Event) : Station :=
  let step := station.machine.handle station.robot.answers event
  ((station.absorb step).settleResult step.result).publish

/-- Gives everything that waits to the machine. Handling an event puts nothing into the queue. -/
def settle (station : Station) : Station :=
  station.queue.foldl dispatch { station with queue := [] }

def powerOff (station : Station) : Station :=
  let (robot, events) := station.robot.powerOff
  { station with
    robot
    records := station.records ++ station.robot.powerOffRecords }.enqueue (events.map .transport)

def runJob (station : Station) (index : Nat) : Station :=
  let (robot, events) := station.robot.runJob station.now index
  { station with robot }.enqueue (events.map .transport)

def runTimer (station : Station) (index : Nat) : Station :=
  match station.timers[index]? with
  | some (_, event) =>
    { station with timers := station.timers.eraseIdx index }.enqueue [.timer event]
  | none => station

def dues (station : Station) : List Nat :=
  station.robot.jobs.map (·.due) ++ station.timers.map (·.1)

def nextDue? (station : Station) : Option Nat := station.dues.min?

/-- Runs what is due at a time: the first such job, or else the first such timer. -/
def runDue (station : Station) (due : Nat) : Station :=
  let station := { station with now := max station.now due }
  match station.robot.jobs.findIdx? (·.due == due) with
  | some job => station.runJob job
  | none => station.runTimer (station.timers.findIdx (·.1 == due))

def advanceWithin (limit : Nat) : Nat → Station → Station
  | 0, station => station
  | steps + 1, station =>
    let station := station.settle
    match station.nextDue? with
    | some due => if due ≤ limit then advanceWithin limit steps (station.runDue due) else station
    | none => station

/--
Runs what is due until a time, and the clock with it. Each millisecond sees each present job and timer at
most once, and of what they bring about at once only the few stages that a link goes through.
-/
def advance (station : Station) (limit : Nat) : Station :=
  let steps := (limit + 2 - station.now) * (station.dues.length + station.queue.length + 40)
  { (advanceWithin limit steps station).settle with now := max station.now limit }

/-- The end of the service: a scan is stopped, a connection asked to end, and nothing more is handled. -/
def shutdown (station : Station) : Station :=
  if station.machine.state = .idle then station
  else station.absorb station.machine.disconnect

end Station
end SpinnerRemote
