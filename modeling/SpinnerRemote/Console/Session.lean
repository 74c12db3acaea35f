import SpinnerRemote.Console.Command
import SpinnerRemote.Console.Dashboard
import SpinnerRemote.Text.Utf8

/-!
The console: it takes the operator's bytes and the link's events in the order in which they come, and
yields what they bring about.

A line ends with a line feed, before which one carriage return counts for nothing; what is left at the
end of input is a line too. Blank lines are passed over, lines that are no command are answered, and the
session ends with a quit, with the input, or at a line that is not UTF-8.
-/
namespace SpinnerRemote.Console

def helpText : String := "\n".intercalate
  ["Commands:",
    "  scan                      Search for the robot and connect",
    "  disconnect                Drop the link (or stop scanning)",
    "  trim <0-1000>             Radius trim slider",
    "  fine <0-1000>             Fine trim slider (500 = centre)",
    "  throttle <0-100>          Throttle",
    "  heading <0-99|+|->        Heading LED offset",
    "  tilt-steer on|off         Steer by tilting sideways",
    "  heartbeat on|off          Heartbeat marker",
    "  foreground on|off         Console visibility",
    "  tilt <fwd_g> <steer_g>    Feed an accelerometer sample, in G",
    "  status                    Show the dashboard",
    "  help                      This text",
    "  quit                      Exit"]

inductive Ending where
  | quit
  | endOfInput
  | unreadable (fault : Utf8.Fault)
  deriving DecidableEq, Repr

def Ending.returned : Ending → Except Utf8.Fault Unit
  | .unreadable fault => .error fault
  | _ => .ok ()

inductive Effect where
  | notice (message : Link.StatusMessage)
  | refusal (error : CommandError)
  | dashboard (text : String)
  | help
  | scan
  | disconnect
  | sample (sample : AccelSample)
  deriving DecidableEq, Repr

def Effect.line? : Effect → Option String
  | .notice message => some (statusLine message)
  | .refusal error => some error.message
  | .dashboard text => some text
  | .help => some helpText
  | _ => none

def printed (effects : List Effect) : String :=
  String.join ((effects.filterMap Effect.line?).map (· ++ "\n"))

structure Session where
  settings : ControlSettings := {}
  dashboard : Dashboard := {}
  /-- The bytes of the line that is being typed, the latest one first. -/
  typed : List UInt8 := []
  ending : Option Ending := none
  deriving DecidableEq, Repr

inductive Input where
  | byte (byte : UInt8)
  | endOfInput
  | event (event : Link.AppEvent)
  deriving DecidableEq, Repr

namespace Session

def isRunning (session : Session) : Bool := session.ending.isNone

/-- Carries out a command. `output` is what the control loop computed last. -/
def execute (session : Session) (output : Option Control.Output) :
    Command → Session × List Effect
  | .scan => (session, [.scan])
  | .disconnect => (session, [.disconnect])
  | .adjust adjustment => ({ session with settings := session.settings.adjust adjustment }, [])
  | .tilt forwardBack steer => (session, [.sample (Control.tilted forwardBack steer)])
  | .status =>
    let dashboard := { session.dashboard with output := output.or session.dashboard.output }
    ({ session with dashboard }, [.dashboard (dashboard.render session.settings)])
  | .help => (session, [.help])
  | .quit => ({ session with ending := some .quit }, [])

def takeLine (session : Session) (output : Option Control.Output) (bytes : List UInt8) :
    Session × List Effect :=
  match Utf8.decode bytes with
  | .error fault => ({ session with ending := some (.unreadable fault) }, [])
  | .ok text =>
    if Text.isBlankText text.toList then (session, [])
    else
      match Command.parse text.toList with
      | .ok command => session.execute output command
      | .error error => (session, [.refusal error])

/-- The bytes of a line, given the latest one first, without a carriage return at its end. -/
def lineBytes : List UInt8 → List UInt8
  | 13 :: rest => rest.reverse
  | typed => typed.reverse

def take (session : Session) (output : Option Control.Output) : Input → Session × List Effect
  | .byte byte =>
    if byte = 10 then
      { session with typed := [] }.takeLine output (lineBytes session.typed)
    else ({ session with typed := byte :: session.typed }, [])
  | .endOfInput =>
    let (session, effects) :=
      if session.typed.isEmpty then (session, [])
      else { session with typed := [] }.takeLine output session.typed.reverse
    ({ session with ending := session.ending.or (some .endOfInput) }, effects)
  | .event event =>
    ({ session with dashboard := session.dashboard.apply event },
      ((Dashboard.shown event).map Effect.notice).toList)

def step (session : Session) (output : Option Control.Output) (input : Input) :
    Session × List Effect :=
  if session.isRunning then session.take output input else (session, [])

def steps (session : Session) (output : Option Control.Output) (inputs : List Input) :
    Session × List Effect :=
  inputs.foldl
    (fun (session, effects) input =>
      let (next, more) := session.step output input
      (next, effects ++ more))
    (session, [])

/-- What a session that has ended still takes of the events that wait: all of them after an orderly end,
none after a line that is not UTF-8. -/
def drained (session : Session) (waiting : List Link.AppEvent) : List Link.AppEvent :=
  match session.ending.map Ending.returned with
  | some (.ok ()) => waiting
  | _ => []

def conclude (session : Session) (waiting : List Link.AppEvent) : Session × List Effect :=
  let events := session.drained waiting
  ({ session with dashboard := events.foldl Dashboard.apply session.dashboard },
    (events.filterMap Dashboard.shown).map .notice)

end Session
end SpinnerRemote.Console
