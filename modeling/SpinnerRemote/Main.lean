import Std.Time.DateTime.Timestamp
import SpinnerRemote.Preferences.Place
import SpinnerRemote.Startup

/-!
The command line: the program on the real clock, with its files and the terminal.

What the program does is `Program` and `Startup`. Here its clock is moved, lines that were typed are
handed to it, and what it prints, logs and keeps is written out.
-/
namespace SpinnerRemote.Terminal

def directory : IO String := do
  let name := "/MeltyController"
  match ← IO.getEnv "XDG_CONFIG_HOME" with
  | some path => if path.startsWith "/" then return path ++ name
  | none => pure ()
  match ← IO.getEnv "HOME" with
  | some home => return home ++ "/.config" ++ name
  | none => throw (IO.userError "Could not determine config directory")

def look (path : String) : IO Preferences.Place := do
  try
    return .file (← IO.FS.readBinFile path).toList
  catch
    | .noFileOrDirectory .. => return .missing
    | _ => return .blocked

structure Logger where
  filter : Log.Filter
  settings : LogSettings
  files : Option String

namespace Logger

def path (logger : Logger) (directory : String) (stamp : Log.Stamp) : String :=
  directory ++ "/" ++
    Log.fileName logger.settings.filePrefix (.ofText logger.settings.rotation) stamp

def now : IO Log.Stamp := do
  let nanoseconds := (← Std.Time.Timestamp.now).toNanosecondsSinceUnixEpoch.val
  return .ofMicroseconds (nanoseconds / 1000).toNat

def append (logger : Logger) (stamp : Log.Stamp) (text : String) : IO Unit :=
  match logger.files with
  | some directory =>
    IO.FS.withFile (logger.path directory stamp) .append fun file => file.putStr text
  | none => pure ()

def new (base : String) (environment : Option String) (settings : LogSettings) : IO Logger := do
  let directory := Disk.join base settings.directory
  if settings.fileLogging then IO.FS.createDirAll directory
  let logger : Logger := {
    filter := Log.Filter.choose environment settings.level
    settings
    files := if settings.fileLogging then some directory else none }
  logger.append (← now) ""
  return logger

def log (logger : Logger) (record : Log.Record) : IO Unit := do
  let settings := logger.settings
  if logger.filter.allows record.level record.source.target then
    let stamp ← now
    if settings.consoleLogging then
      IO.eprintln (record.written settings.ansiColors settings.showTarget stamp)
    logger.append stamp (record.written false settings.showTarget stamp ++ "\n")

end Logger

structure Live where
  program : Program
  logger : Option Logger
  preferences : String
  /-- Whether the last attempt to save them failed, which is said once. -/
  saveFailed : Bool := false

namespace Live

def log (live : Live) (records : List Log.Record) : IO Unit :=
  match live.logger with
  | some logger => records.forM logger.log
  | none => pure ()

def save (live : Live) : IO Live := do
  match live.program.loop.store.pending? with
  | none => return live
  | some text =>
    try
      IO.FS.writeFile live.preferences text
      return { live with
        program := { live.program with loop := live.program.loop.saved }
        saveFailed := false }
    catch error =>
      unless live.saveFailed do
        live.log [⟨.warn, .control, s!"Failed to save control preferences: {error}"⟩]
      return { live with saveFailed := true }

def emit (live : Live) : IO Live := do
  let program := live.program
  unless program.printed.isEmpty do
    IO.print program.printed
    (← IO.getStdout).flush
  live.log program.station.records
  { live with
    program := { program with
      station := { program.station with calls := [], events := [], records := [] }
      seen := 0
      printed := "" } }.save

end Live

partial def readLine (input : IO.FS.Stream) (line : ByteArray) : IO ByteArray := do
  let read ← input.read 1
  if read.isEmpty then return line
  let line := line ++ read
  if read.data.back? = some 10 then return line
  readLine input line

/-- Runs the program until its console ends. The next line is asked for only while that runs. -/
partial def serve (input : IO.FS.Stream) (start : Nat) (live : Live)
    (line : Task (Except IO.Error ByteArray)) : IO Live := do
  let program := live.program.advance ((← IO.monoMsNow) - start)
  if ← IO.hasFinished line then
    let bytes := match line.get with
      | .ok bytes => bytes
      | .error _ => .empty
    let typed := program.type bytes.toList
    let program := if bytes.data.back? = some 10 then typed else typed.endInput
    let live ← { live with program }.emit
    if program.console.isRunning then
      serve input start live (← IO.asTask (readLine input .empty) .dedicated)
    else return live
  else
    let live ← { live with program }.emit
    IO.sleep 2
    serve input start live line

def run : IO UInt32 := do
  let base ← directory
  IO.FS.createDirAll base
  let settingsPath := base ++ "/" ++ Startup.settingsFile
  let place ← look settingsPath
  let settings := Settings.ofBytes place.bytes?
  if place = .missing then
    try IO.FS.writeFile settingsPath settings.text
    catch error => IO.eprintln s!"Failed to write default settings: {error}"
  let logger ←
    try
      let logger ← Logger.new base (← IO.getEnv "RUST_LOG") settings.log
      pure (some logger)
    catch error =>
      IO.eprintln s!"Failed to initialize logging: {error}"
      pure none
  let preferences := base ++ "/" ++ Startup.preferencesFile
  let kept := Preferences.Kept.ofPlace (← look preferences)
  match Robot.Simulator.ofSettings settings with
  | .error error =>
    let refused := Startup.refused error kept
    if let some logger := logger then refused.records.forM logger.log
    refused.complaints.forM IO.eprintln
    return refused.code
  | .ok robot =>
    let program := Program.new settings settings.link robot kept.store
    let live : Live := { program, logger, preferences }
    live.log (Startup.opening ++ Startup.started settings)
    let input ← IO.getStdin
    let line ← IO.asTask (readLine input .empty) .dedicated
    let live ← serve input (← IO.monoMsNow) live line
    live.log (Startup.ended live.program.console.ending)
    let live ← { live with program := live.program.shutdown }.emit
    live.log Startup.closing
    return 0

end SpinnerRemote.Terminal

def main : IO UInt32 := do
  try
    SpinnerRemote.Terminal.run
  catch error =>
    IO.eprintln s!"Error: {error}"
    return 1
