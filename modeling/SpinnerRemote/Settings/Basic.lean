import SpinnerRemote.Control.Settings
import SpinnerRemote.Link.Channels

/-!
The settings of the program and their defaults. Times are milliseconds, radii centimetres.
-/
namespace SpinnerRemote

structure LogSettings where
  level : String := "info"
  fileLogging : Bool := false
  consoleLogging : Bool := true
  directory : String := "logs"
  filePrefix : String := "melty_controller"
  showFileLine : Bool := false
  showThreadIds : Bool := false
  showTarget : Bool := true
  ansiColors : Bool := true
  rotation : String := "daily"
  deriving DecidableEq, Repr

structure SimulatorSettings where
  adapterPresent : Bool := true
  permissionGranted : Bool := true
  advertiseDelay : Nat := 800
  connectLatency : Nat := 30
  writeLatency : Nat := 30
  telemetryInterval : Nat := 200
  batteryVolts : Single := 16.4
  deriving DecidableEq, Repr

structure Settings where
  log : LogSettings := {}
  deviceName : String := robotName
  service : Uuid := serviceUuid
  telemetry : Uuid := telemetryUuid
  config : Uuid := configUuid
  scanTimeout : Nat := 10000
  connectDelay : Nat := 500
  discoveryTimeout : Option Nat := some 5000
  tickInterval : Nat := 50
  heartbeatInterval : Nat := 400
  maxRadius : Single := 20
  minRadius : Single := 0.1
  simulator : SimulatorSettings := {}
  deriving DecidableEq, Repr

namespace Settings

def limits (settings : Settings) : RadiusLimits where
  min := settings.minRadius
  max := settings.maxRadius

def link (settings : Settings) : Link.Config where
  deviceName := settings.deviceName
  telemetry := settings.telemetry
  config := settings.config
  scanTimeout := settings.scanTimeout
  connectDelay := settings.connectDelay
  discoveryTimeout := settings.discoveryTimeout

/-- The period of the control loop, which is never zero. -/
def tickPeriod (settings : Settings) : Nat := max settings.tickInterval 1

end Settings
end SpinnerRemote
