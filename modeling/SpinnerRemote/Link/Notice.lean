import SpinnerRemote.Link.State
import SpinnerRemote.Log.Record
import SpinnerRemote.Text.Hex

/-!
What the link logs about its own work, and the records of it. Nothing below information is kept: events
that are passed over leave no notice.
-/
namespace SpinnerRemote.Link

open Transport (Connection Peripheral)

inductive Notice where
  | scanForbidden
  | scanBegins (target : String)
  | scanStops (scan : Nat)
  | scanExpired (scan : Nat)
  | found (peripheral : Peripheral)
  | connectForbidden
  | connecting (peripheral : Peripheral)
  | connectRefused (error : Transport.Error)
  | connected
  | discoveryRefused (error : Transport.Error)
  | discoveryFailed (status : Int)
  | discoveryExpired (missing : List String)
  | notificationsRefused
  | channelsMissing (missing : List String)
  | ready (peripheral : Peripheral)
  | disconnecting (connection : Connection)
  /-- A connection has ended that was not ready, or that was asked to end. -/
  | ended (status : Int)
  /-- A ready connection has ended unasked. -/
  | lost (status : Int)
  deriving DecidableEq, Repr

namespace Notice

def listed (names : List String) : String :=
  "[" ++ ", ".intercalate (names.map fun name => "\"" ++ name ++ "\"") ++ "]"

def record : Notice → Log.Record
  | .scanForbidden => ⟨.error, .link, "Scan aborted: Bluetooth permission not granted"⟩
  | .scanBegins target => ⟨.info, .scanner, s!"Starting BLE scan for device name: {target}"⟩
  | .scanStops scan => ⟨.info, .scanner, s!"Stopping BLE scan {scan}"⟩
  | .scanExpired scan => ⟨.info, .link, s!"Scan {scan} timed out"⟩
  | .found peripheral =>
    ⟨.info, .link, s!"Found {peripheral.name} at {Hex.address peripheral.address}"⟩
  | .connectForbidden => ⟨.error, .link, "Connect aborted: Bluetooth permission not granted"⟩
  | .connecting peripheral => ⟨.info, .link, s!"Connecting to device: {peripheral.name}"⟩
  | .connectRefused error => ⟨.warn, .link, s!"Connect request rejected: {error.message}"⟩
  | .connected => ⟨.info, .link, "Connected to GATT server, discovering services"⟩
  | .discoveryRefused error =>
    ⟨.warn, .link, s!"Service discovery failed to start: {error.message}"⟩
  | .discoveryFailed status => ⟨.warn, .link, s!"onServicesDiscovered received: {status}"⟩
  | .discoveryExpired missing =>
    ⟨.warn, .link, "Service discovery incomplete, missing: " ++ listed missing⟩
  | .notificationsRefused => ⟨.warn, .link, "Failed to enable telemetry notifications"⟩
  | .channelsMissing missing =>
    ⟨.warn, .link, "Robot is missing required characteristics: " ++ listed missing⟩
  | .ready peripheral => ⟨.info, .link, s!"Link ready with {peripheral.name}"⟩
  | .disconnecting connection => ⟨.info, .link, s!"Disconnecting connection #{connection}"⟩
  | .ended status => ⟨.info, .link, s!"Disconnected from device (status {status})"⟩
  | .lost status => ⟨.warn, .link, (Error.disconnectedUnexpectedly status).message⟩

end Notice

def Error.record (error : Error) : Log.Record :=
  ⟨if error.severity = .error then .error else .warn, .service, error.message⟩

end SpinnerRemote.Link
