import SpinnerRemote.Json.Reader
import SpinnerRemote.Json.Value
import SpinnerRemote.Settings.Basic
import SpinnerRemote.Text.Utf8

/-!
The settings file. A record is an object whose members may be missing and may stand beside others, or an
array of its fields in order, of which the last ones may be missing; a missing field has its default.
Anything that is wrong, a field given twice among it, makes the whole file unreadable, and then every
setting has its default.
-/
namespace SpinnerRemote.Settings

open Json (Tree Value)

/-- The part of a record that is left to read: each field's name and what stands for it. -/
abbrev Fields := List (String × Option Tree)

/-- Gives a member to the field of its name. A field takes one member; other names are passed over. -/
def assign (name : String) (item : Tree) : Fields → Option Fields
  | [] => some []
  | (field, held) :: rest =>
    if field = name then
      match held with
      | none => some ((field, some item) :: rest)
      | some _ => none
    else (assign name item rest).map ((field, held) :: ·)

def fields? (names : List String) : Tree → Option (List (Option Tree))
  | .object members =>
    let empty : Fields := names.map fun name => (name, none)
    let assigned := members.foldlM (fun fields (key, item) => do assign (← key.value?) item fields) empty
    assigned.map fun fields => fields.map (·.2)
  | .array items =>
    if names.length < items.length then none
    else some (items.map some ++ List.replicate (names.length - items.length) none)
  | _ => none

def bool? : Tree → Option Bool
  | .bool value => some value
  | _ => none

def string? : Tree → Option String
  | .string text => text.value?
  | _ => none

def natural? : Tree → Option Nat
  | .number text =>
    match text.value? with
    | some (.int value) => if 0 ≤ value then some value.toNat else none
    | _ => none
  | _ => none

/-- A number in single precision; only a null stands for none. -/
def single? : Tree → Option Single
  | .number text =>
    match text.value? with
    | some (.int value) => some (Binary.ofInt value)
    | some (.double value) => some (value.convert .single)
    | some (.single value) => some value
    | none => none
  | _ => none

def uuid? (tree : Tree) : Option Uuid := (string? tree).bind Uuid.ofText?

def optional? {α : Type} (read : Tree → Option α) : Tree → Option (Option α)
  | .null => some none
  | tree => (read tree).map some

def field {α : Type} (read : Tree → Option α) (default : α) : Option Tree → Option α
  | none => some default
  | some tree => read tree

def logFields : List String :=
  ["level", "file_logging_enabled", "console_logging_enabled", "log_dir", "file_name_prefix",
    "show_file_line", "show_thread_ids", "show_target", "ansi_colors", "rotation"]

def log? (tree : Tree) : Option LogSettings := do
  let usual : LogSettings := {}
  match ← fields? logFields tree with
  | [level, fileLogging, consoleLogging, directory, filePrefix, showFileLine, showThreadIds, showTarget,
      ansiColors, rotation] =>
    return {
      level := ← field string? usual.level level
      fileLogging := ← field bool? usual.fileLogging fileLogging
      consoleLogging := ← field bool? usual.consoleLogging consoleLogging
      directory := ← field string? usual.directory directory
      filePrefix := ← field string? usual.filePrefix filePrefix
      showFileLine := ← field bool? usual.showFileLine showFileLine
      showThreadIds := ← field bool? usual.showThreadIds showThreadIds
      showTarget := ← field bool? usual.showTarget showTarget
      ansiColors := ← field bool? usual.ansiColors ansiColors
      rotation := ← field string? usual.rotation rotation }
  | _ => none

def simulatorFields : List String :=
  ["adapter_present", "permission_granted", "advertise_delay_ms", "connect_latency_ms",
    "write_latency_ms", "telemetry_interval_ms", "battery_volts"]

def simulator? (tree : Tree) : Option SimulatorSettings := do
  let usual : SimulatorSettings := {}
  match ← fields? simulatorFields tree with
  | [adapterPresent, permissionGranted, advertiseDelay, connectLatency, writeLatency, telemetryInterval,
      batteryVolts] =>
    return {
      adapterPresent := ← field bool? usual.adapterPresent adapterPresent
      permissionGranted := ← field bool? usual.permissionGranted permissionGranted
      advertiseDelay := ← field natural? usual.advertiseDelay advertiseDelay
      connectLatency := ← field natural? usual.connectLatency connectLatency
      writeLatency := ← field natural? usual.writeLatency writeLatency
      telemetryInterval := ← field natural? usual.telemetryInterval telemetryInterval
      batteryVolts := ← field single? usual.batteryVolts batteryVolts }
  | _ => none

def settingsFields : List String :=
  ["log_settings", "device_name", "ble_service_uuid", "telemetry_char_uuid", "config_char_uuid",
    "scan_timeout_ms", "connect_delay_ms", "discovery_timeout_ms", "tick_interval_ms",
    "heartbeat_interval_ms", "max_radius_cm", "min_radius_cm", "simulator"]

def ofTree? (tree : Tree) : Option Settings := do
  let usual : Settings := {}
  match ← fields? settingsFields tree with
  | [log, deviceName, service, telemetry, config, scanTimeout, connectDelay, discoveryTimeout,
      tickInterval, heartbeatInterval, maxRadius, minRadius, simulator] =>
    return {
      log := ← field log? usual.log log
      deviceName := ← field string? usual.deviceName deviceName
      service := ← field uuid? usual.service service
      telemetry := ← field uuid? usual.telemetry telemetry
      config := ← field uuid? usual.config config
      scanTimeout := ← field natural? usual.scanTimeout scanTimeout
      connectDelay := ← field natural? usual.connectDelay connectDelay
      discoveryTimeout := ← field (optional? natural?) usual.discoveryTimeout discoveryTimeout
      tickInterval := ← field natural? usual.tickInterval tickInterval
      heartbeatInterval := ← field natural? usual.heartbeatInterval heartbeatInterval
      maxRadius := ← field single? usual.maxRadius maxRadius
      minRadius := ← field single? usual.minRadius minRadius
      simulator := ← field simulator? usual.simulator simulator }
  | _ => none

def ofText? (text : String) : Option Settings := (Tree.ofText? text).bind ofTree?

/-- The settings of a file's bytes; no file and an unreadable one give the defaults. -/
def ofBytes (bytes : Option (List UInt8)) : Settings :=
  match bytes with
  | none => {}
  | some bytes =>
    match Utf8.decode bytes with
    | .ok text => (ofText? text).getD {}
    | .error _ => {}

def naturalValue (n : Nat) : Value := .number (.int n)

def singleValue (x : Single) : Value := .number (.single x)

def uuidValue (uuid : Uuid) : Value := .string uuid.text

def logValue (log : LogSettings) : Value :=
  .object <| logFields.zip
    [.string log.level, .bool log.fileLogging, .bool log.consoleLogging, .string log.directory,
      .string log.filePrefix, .bool log.showFileLine, .bool log.showThreadIds, .bool log.showTarget,
      .bool log.ansiColors, .string log.rotation]

def simulatorValue (simulator : SimulatorSettings) : Value :=
  .object <| simulatorFields.zip
    [.bool simulator.adapterPresent, .bool simulator.permissionGranted,
      naturalValue simulator.advertiseDelay, naturalValue simulator.connectLatency,
      naturalValue simulator.writeLatency, naturalValue simulator.telemetryInterval,
      singleValue simulator.batteryVolts]

def toValue (settings : Settings) : Value :=
  .object <| settingsFields.zip
    [logValue settings.log, .string settings.deviceName, uuidValue settings.service,
      uuidValue settings.telemetry, uuidValue settings.config, naturalValue settings.scanTimeout,
      naturalValue settings.connectDelay,
      (match settings.discoveryTimeout with
        | none => .null
        | some limit => naturalValue limit),
      naturalValue settings.tickInterval, naturalValue settings.heartbeatInterval,
      singleValue settings.maxRadius, singleValue settings.minRadius,
      simulatorValue settings.simulator]

def text (settings : Settings) : String := settings.toValue.text

end SpinnerRemote.Settings
