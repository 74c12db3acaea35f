import SpinnerRemote.Log.Record
import SpinnerRemote.Settings.Basic
import SpinnerRemote.Transport

/-!
A robot in the same process, with the radio that reaches it.

Work that a call starts is a job with the time at which it is due. A scan shows a decoy and the robot,
one after the other. A connection is known from the call that opens it to the call that closes it; its
jobs are dropped when it is disconnected or closed. A frame reaches the robot with the call that writes
it, and telemetry reports the throttle of the latest one.
-/
namespace SpinnerRemote.Robot

open Transport (Answers Call Characteristic Connection Peripheral Service)

def invalidLength : Int := 0x0D

def connectionTimeout : Int := 0x08

def robotAddress : Nat := 0xC0FFEE001523

def decoy : Peripheral := ⟨0x5A5A5A000001, "Pocket_Speaker"⟩

def telemetryHandle : Nat := 0x000E
def configHandle : Nat := 0x0011

inductive Task where
  /-- A peripheral is seen; those that follow are seen one by one later. -/
  | advertise (first : Peripheral) (rest : List Peripheral)
  | deliver (connection : Connection) (event : Transport.Event)
  | report (connection : Connection) (characteristic : Uuid)
  deriving DecidableEq, Repr

structure Job where
  due : Nat
  task : Task
  deriving DecidableEq, Repr

def Task.isScan : Task → Bool
  | .advertise .. => true
  | _ => false

def Task.isOf (connection : Connection) : Task → Bool
  | .advertise .. => false
  | .deliver owner _ => owner == connection
  | .report owner _ => owner == connection

structure Simulator where
  settings : SimulatorSettings
  deviceName : String
  service : Uuid
  telemetry : Uuid
  config : Uuid
  lastFrame : Option Frame := none
  framesReceived : Nat := 0
  connection : Option Connection := none
  nextConnection : Connection := 1
  known : List Connection := []
  jobs : List Job := []
  deriving DecidableEq, Repr

def rotationPeriod (throttle : UInt8) : UInt8 :=
  if throttle = 0 then 0 else .ofNat (min (2000 / throttle.toNat) 255)

def decivolts (volts : Single) : UInt8 := .ofNat ((volts * 10).nearestNat 255)

namespace Simulator

def ofSettings (settings : Settings) : Except Transport.Error Simulator :=
  if settings.simulator.adapterPresent then
    .ok {
      settings := settings.simulator
      deviceName := settings.deviceName
      service := settings.service
      telemetry := settings.telemetry
      config := settings.config }
  else .error (.adapterUnavailable "no Bluetooth adapter")

def isKnown (simulator : Simulator) (connection : Connection) : Bool :=
  simulator.known.contains connection

def ensureKnown (simulator : Simulator) (connection : Connection) : Except Transport.Error Unit :=
  if simulator.isKnown connection then .ok () else .error (.unknownConnection connection)

def robot (simulator : Simulator) : Peripheral := ⟨robotAddress, simulator.deviceName⟩

def visible (simulator : Simulator) (name : Option String) : List Peripheral :=
  [decoy, simulator.robot].filter fun peripheral => name.all (peripheral.name == ·)

def services (simulator : Simulator) : List Service :=
  [⟨simulator.service,
    [⟨simulator.telemetry, telemetryHandle⟩, ⟨simulator.config, configHandle⟩]⟩]

def advertiseStep (simulator : Simulator) : Nat := simulator.settings.advertiseDelay / 2

def reportPeriod (simulator : Simulator) : Nat := max simulator.settings.telemetryInterval 1

def connectAnswer (simulator : Simulator) (peripheral : Peripheral) :
    Except Transport.Error Connection :=
  if peripheral.address = robotAddress then .ok simulator.nextConnection
  else .error (.refused s!"{peripheral.name} is not connectable")

def enableAnswer (simulator : Simulator) (connection : Connection) (characteristic : Uuid) : Bool :=
  simulator.isKnown connection && characteristic == simulator.telemetry

def writeAnswer (simulator : Simulator) (connection : Connection) (characteristic : Uuid) :
    Except Transport.Error Unit :=
  match simulator.ensureKnown connection with
  | .error error => .error error
  | .ok () =>
    if characteristic = simulator.config then .ok ()
    else .error (.refused s!"{characteristic.text} is not writable")

def answers (simulator : Simulator) : Answers where
  permission := simulator.settings.permissionGranted
  startScan _ := .ok ()
  connect := simulator.connectAnswer
  discoverServices := simulator.ensureKnown
  enableNotification connection characteristic :=
    simulator.enableAnswer connection characteristic.uuid
  write connection characteristic _ := simulator.writeAnswer connection characteristic.uuid

def addJob (simulator : Simulator) (due : Nat) (task : Task) : Simulator :=
  { simulator with jobs := simulator.jobs ++ [⟨due, task⟩] }

def dropJobs (simulator : Simulator) (drop : Task → Bool) : Simulator :=
  { simulator with jobs := simulator.jobs.filter fun job => !drop job.task }

def addAdvertising (simulator : Simulator) (now : Nat) : List Peripheral → Simulator
  | [] => simulator
  | first :: rest => simulator.addJob (now + simulator.advertiseStep) (.advertise first rest)

def startScan (simulator : Simulator) (now : Nat) (name : Option String) : Simulator :=
  (simulator.dropJobs Task.isScan).addAdvertising now (simulator.visible name)

def stopScan (simulator : Simulator) : Simulator := simulator.dropJobs Task.isScan

def deliver (simulator : Simulator) (due : Nat) (connection : Connection) (event : Transport.Event) :
    Simulator :=
  simulator.addJob due (.deliver connection event)

def connect (simulator : Simulator) (now : Nat) : Simulator :=
  let connection := simulator.nextConnection
  { simulator with
    nextConnection := connection + 1
    known := simulator.known ++ [connection]
    connection := some connection }.deliver (now + simulator.settings.connectLatency) connection
      (.connected connection Transport.success)

def discoverServices (simulator : Simulator) (now : Nat) (connection : Connection) : Simulator :=
  simulator.deliver (now + simulator.settings.connectLatency) connection
    (.services connection Transport.success simulator.services)

def enableNotification (simulator : Simulator) (now : Nat) (connection : Connection)
    (characteristic : Uuid) : Simulator :=
  simulator.addJob (now + simulator.reportPeriod) (.report connection characteristic)

/-- The robot takes a frame; anything else changes nothing but the status of the write. -/
def takeFrame (simulator : Simulator) (bytes : List UInt8) : Simulator × Int :=
  match Frame.decode bytes with
  | .ok frame =>
    ({ simulator with lastFrame := some frame, framesReceived := simulator.framesReceived + 1 },
      Transport.success)
  | .error _ => (simulator, invalidLength)

def write (simulator : Simulator) (now : Nat) (connection : Connection) (characteristic : Uuid)
    (bytes : List UInt8) : Simulator :=
  let (taken, status) := simulator.takeFrame bytes
  taken.deliver (now + simulator.settings.writeLatency) connection
    (.written connection characteristic status)

/-- Drops what is under way on a known connection, which then is reported to have ended. -/
def disconnect (simulator : Simulator) (now : Nat) (connection : Connection) : Simulator :=
  if simulator.isKnown connection then
    let dropped := simulator.dropJobs (Task.isOf connection)
    { dropped with
      connection :=
        if dropped.connection = some connection then none else dropped.connection }.deliver
      (now + simulator.settings.connectLatency) connection
      (.disconnected connection Transport.success)
  else simulator

def close (simulator : Simulator) (connection : Connection) : Simulator :=
  { simulator.dropJobs (Task.isOf connection) with
    known := simulator.known.filter (· != connection) }

def perform (simulator : Simulator) (now : Nat) : Call → Simulator
  | .startScan name (.ok _) => simulator.startScan now (some name)
  | .stopScan => simulator.stopScan
  | .connect _ (.ok _) => simulator.connect now
  | .discoverServices connection (.ok _) => simulator.discoverServices now connection
  | .enableNotification connection characteristic true =>
    simulator.enableNotification now connection characteristic.uuid
  | .write connection characteristic bytes (.ok _) =>
    simulator.write now connection characteristic.uuid bytes
  | .disconnect connection => simulator.disconnect now connection
  | .close connection => simulator.close connection
  | _ => simulator

/-- The robot leaves the air, and drops its connection if it holds one. -/
def powerOff (simulator : Simulator) : Simulator × List Transport.Event :=
  match simulator.connection with
  | some connection =>
    ({ simulator with connection := none }, [.disconnected connection connectionTimeout])
  | none => (simulator, [])

def powerOffRecords (simulator : Simulator) : List Log.Record :=
  simulator.connection.toList.map fun connection =>
    ⟨.warn, .simulator, s!"Simulated robot dropping connection #{connection}"⟩

def telemetryBytes (simulator : Simulator) : List UInt8 :=
  let throttle := (simulator.lastFrame.map (·.throttle)).getD 0
  Telemetry.encode (rotationPeriod throttle) (decivolts simulator.settings.batteryVolts)

/-- What a task comes to at its time: a report is due again a period later. -/
def run (simulator : Simulator) (now : Nat) : Task → Simulator × Transport.Event
  | .advertise first rest => (simulator.addAdvertising now rest, .discovered first)
  | .deliver _ event => (simulator, event)
  | .report connection characteristic =>
    (simulator.addJob (now + simulator.reportPeriod) (.report connection characteristic),
      .notification connection characteristic simulator.telemetryBytes)

def runJob (simulator : Simulator) (now index : Nat) : Simulator × List Transport.Event :=
  match simulator.jobs[index]? with
  | some job =>
    let (simulator, event) := { simulator with jobs := simulator.jobs.eraseIdx index }.run now job.task
    (simulator, [event])
  | none => (simulator, [])

end Simulator
end SpinnerRemote.Robot
