import SpinnerRemote.Control.Loop
import SpinnerRemote.Decimal.Layout
import SpinnerRemote.Link.State

/-!
The dashboard: everything the operator sees of the link, rebuilt from its events. A change of the link's
state clears the telemetry, so that no speed outlives the connection it came from.
-/
namespace SpinnerRemote.Console

structure Dashboard where
  link : Link.State := .idle
  status : Option Link.StatusMessage := none
  telemetry : Option Telemetry := none
  output : Option Control.Output := none
  deriving DecidableEq, Repr

def severityTag : Link.Severity → String
  | .info => "info"
  | .success => "ok"
  | .warning => "warn"
  | .error => "error"

def statusLine (message : Link.StatusMessage) : String :=
  s!"[{severityTag message.severity}] {message.text}"

def unknown : String := "---"

def onOff (on : Bool) : String := if on then "on" else "off"

namespace Dashboard

def apply (dashboard : Dashboard) : Link.AppEvent → Dashboard
  | .state state => { dashboard with link := state, telemetry := none }
  | .telemetry telemetry => { dashboard with telemetry := some telemetry }
  | .log message => { dashboard with status := some message }

def shown : Link.AppEvent → Option Link.StatusMessage
  | .log message => some message
  | _ => none

def rpmText (dashboard : Dashboard) : String :=
  match dashboard.telemetry with
  | some telemetry => if 0 < telemetry.rpm then Decimal.fixed 0 false telemetry.rpm else unknown
  | none => unknown

def voltageText (dashboard : Dashboard) : String :=
  match dashboard.telemetry with
  | some telemetry => Decimal.fixed 1 false telemetry.volts ++ " V"
  | none => unknown

def outputLine : Option Control.Output → String
  | none => s!"Radius:    {unknown}"
  | some output =>
    s!"Radius:    {Decimal.fixed 3 false output.radius} cm  Direction: {output.direction.name}  " ++
      s!"Heartbeat: {output.heartbeat}" ++
      if output.connected then "" else "  (not connected)"

def lines (dashboard : Dashboard) (settings : ControlSettings) : List String :=
  [s!"Link:      {dashboard.link.text}"] ++
  (match dashboard.status with
    | some message => [s!"Status:    {statusLine message}"]
    | none => []) ++
  [s!"RPM:       {dashboard.rpmText}    Battery: {dashboard.voltageText}",
    s!"Trim:      {Decimal.fixed 0 false (settings.trim * Binary.ofNat sliderMax)}  " ++
      s!"Fine: {Decimal.fixed 3 true settings.fine}  Throttle: {settings.throttle}  " ++
      s!"Heading: {settings.heading}",
    s!"Tilt steer: {onOff settings.tiltSteer}  Heartbeat: {onOff settings.heartbeat}  " ++
      s!"Foreground: {onOff settings.foreground}",
    outputLine dashboard.output]

def render (dashboard : Dashboard) (settings : ControlSettings) : String :=
  "\n".intercalate (dashboard.lines settings)

end Dashboard
end SpinnerRemote.Console
