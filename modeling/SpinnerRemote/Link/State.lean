import SpinnerRemote.Transport
import SpinnerRemote.Wire

/-!
What the link shows of itself: its state, its errors, and the events for whoever displays them.
-/
namespace SpinnerRemote.Link

inductive DisconnectReason where
  | status (code : Int)
  | connectRejected
  deriving DecidableEq, Repr

def DisconnectReason.text : DisconnectReason → String
  | .status code => s!"Code {code}"
  | .connectRejected => "connect rejected"

inductive State where
  | idle
  | scanning
  | connecting
  | discovering
  | ready
  | disconnected (reason : DisconnectReason)
  deriving DecidableEq, Repr

def State.text : State → String
  | .idle => "Idle"
  | .scanning => "Scanning"
  | .connecting => "Connecting"
  | .discovering => "Discovering services"
  | .ready => "Connected"
  | .disconnected reason => s!"Disconnected ({reason.text})"

inductive Severity where
  | info
  | success
  | warning
  | error
  deriving DecidableEq, Repr

structure StatusMessage where
  text : String
  severity : Severity
  deriving DecidableEq, Repr

inductive AppEvent where
  | state (state : State)
  | telemetry (telemetry : Telemetry)
  | log (message : StatusMessage)
  deriving DecidableEq, Repr

def AppEvent.note (severity : Severity) (text : String) : AppEvent := .log ⟨text, severity⟩

inductive Error where
  | permissionDenied
  | transportUnavailable (reason : String)
  | scanTimeout
  | discoveryIncomplete
  | writeRejected (reason : String)
  | disconnectedUnexpectedly (code : Int)
  | transport (error : Transport.Error)
  deriving DecidableEq, Repr

namespace Error

def message : Error → String
  | .permissionDenied => "Bluetooth permission denied"
  | .transportUnavailable reason => s!"Bluetooth transport unavailable: {reason}"
  | .scanTimeout => "Scan timed out."
  | .discoveryIncomplete => "Discovery incomplete: robot characteristics not found"
  | .writeRejected reason => s!"config write rejected: {reason}"
  | .disconnectedUnexpectedly code => s!"link dropped unexpectedly (code {code})"
  | .transport error => error.message

/-- The operator has to act on what keeps the radio from being used; the rest is a warning. -/
def severity : Error → Severity
  | .permissionDenied => .error
  | .transportUnavailable _ => .error
  | _ => .warning

def ofUnavailable : Transport.Error → Error
  | .adapterUnavailable reason => .transportUnavailable reason
  | error => .transportUnavailable error.message

def report (error : Error) : AppEvent := .note error.severity error.message

end Error
end SpinnerRemote.Link
