import SpinnerRemote.Console.Session
import SpinnerRemote.Settings.Basic
import SpinnerRemote.Station

/-!
The whole program on a clock of its own: the link at work on the simulated robot, the control loop that
ticks with a fixed period from the start on, and the console between the operator and both.

Input is taken at the time to which the clock was moved last. A request of the console waits in the
link's queue until the console has taken all of its input.
-/
namespace SpinnerRemote

structure Program where
  station : Station
  loop : Control.Loop
  period : Nat
  console : Console.Session
  nextTick : Nat := 0
  sample : Option AccelSample := none
  output : Option Control.Output := none
  seen : Nat := 0
  printed : String := Console.helpText ++ "\n"

namespace Program

def new (settings : Settings) (link : Link.Config) (robot : Robot.Simulator)
    (store : Preferences.Store) : Program where
  station := Station.new link robot
  loop :=
    { limits := settings.limits
      heartbeat := { interval := settings.heartbeatInterval }
      store }
  period := settings.tickPeriod
  console := { settings := ControlSettings.load store.preferences settings.limits }

def perform (program : Program) : Console.Effect → Program
  | .scan => { program with station := program.station.request .scan }
  | .disconnect => { program with station := program.station.request .disconnect }
  | .sample sample => { program with sample := some sample }
  | _ => program

def input (program : Program) (inputs : List Console.Input) : Program :=
  let (console, effects) := program.console.steps program.output inputs
  effects.foldl perform
    { program with console, printed := program.printed ++ Console.printed effects }

def catchUp (program : Program) : Program :=
  let events := program.station.events.drop program.seen
  { program.input (events.map fun (_, event) => .event event) with
    seen := program.station.events.length }

/-- At its end the console takes the events that still wait for it. -/
def conclude (program : Program) : Program :=
  let waiting := program.station.events.drop program.seen
  let (console, effects) := program.console.conclude (waiting.map fun (_, event) => event)
  { program with
    console
    printed := program.printed ++ Console.printed effects
    seen := program.station.events.length }

def settle (program : Program) : Program :=
  { program with station := program.station.settle }.catchUp

def type (program : Program) (bytes : List UInt8) : Program :=
  (program.input (bytes.map .byte)).settle

def endInput (program : Program) : Program := (program.input [.endOfInput]).conclude.settle

def powerOff (program : Program) : Program :=
  { program with station := program.station.powerOff }.settle

def advanceLink (program : Program) (limit : Nat) : Program :=
  { program with station := program.station.advance limit }.catchUp

/-- Runs the link until the next tick is due, and that tick. -/
def tick (program : Program) : Program :=
  let program := program.advanceLink program.nextTick
  let (loop, output) := program.loop.tick {
    now := program.nextTick
    settings := program.console.settings
    sample := program.sample
    connected := program.station.isConnected }
  let station :=
    match output.sent with
    | some frame => program.station.request (.send frame)
    | none => program.station
  { program with
    loop
    station
    output := some output
    nextTick := program.nextTick + program.period }.settle

def tickWithin (limit : Nat) : Nat → Program → Program
  | 0, program => program
  | count + 1, program =>
    if program.nextTick ≤ limit then tickWithin limit count program.tick else program

/-- Runs everything until a time. There are no two ticks in a millisecond. -/
def advance (program : Program) (limit : Nat) : Program :=
  (tickWithin limit (limit + 1 - program.nextTick) program).advanceLink limit

def shutdown (program : Program) : Program :=
  { program with station := program.station.shutdown }.catchUp

/-- The end of the input of a program that has been shut down. Requests are not heard any more. -/
def finish (program : Program) : Program := (program.input [.endOfInput]).conclude

end Program
end SpinnerRemote
