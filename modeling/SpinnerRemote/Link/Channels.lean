import SpinnerRemote.Transport
import SpinnerRemote.Wire

/-!
How a link is set up, and the two channels it looks for among the services of a peripheral.
-/
namespace SpinnerRemote.Link

open Transport (Characteristic Service)

/-- Whom to look for, by which characteristics to talk, and how long to wait (in milliseconds). -/
structure Config where
  deviceName : String := robotName
  telemetry : Uuid := telemetryUuid
  config : Uuid := configUuid
  scanTimeout : Nat := 10000
  connectDelay : Nat := 500
  /-- How long the discovery of services may take; without a limit it may take for ever. -/
  discoveryTimeout : Option Nat := some 5000
  deriving DecidableEq, Repr

structure Channels where
  telemetry : Characteristic
  config : Characteristic
  deriving DecidableEq, Repr

structure PartialChannels where
  telemetry : Option Characteristic := none
  config : Option Characteristic := none
  deriving DecidableEq, Repr

namespace PartialChannels

/-- One more characteristic. If both channels have one identifier, it is a telemetry channel. -/
def note (config : Config) (found : PartialChannels) (characteristic : Characteristic) :
    PartialChannels :=
  if characteristic.uuid = config.telemetry then { found with telemetry := some characteristic }
  else if characteristic.uuid = config.config then { found with config := some characteristic }
  else found

/-- The channels among all services; the last of equal identifiers counts. -/
def locate (config : Config) (services : List Service) : PartialChannels :=
  (services.flatMap (·.characteristics)).foldl (note config) {}

def complete? (found : PartialChannels) : Option Channels :=
  match found.telemetry, found.config with
  | some telemetry, some config => some { telemetry, config }
  | _, _ => none

def missing (found : PartialChannels) : List String :=
  (if found.telemetry.isNone then ["telemetry"] else []) ++
    (if found.config.isNone then ["config"] else [])

end PartialChannels
end SpinnerRemote.Link
