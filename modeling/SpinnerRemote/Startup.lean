import SpinnerRemote.Log.File
import SpinnerRemote.Log.Line
import SpinnerRemote.Preferences.Place
import SpinnerRemote.Program
import SpinnerRemote.Settings.File

/-!
A run of the program from the command line: the settings file is written if there is none, logging is set
up, and the console reads its input to the end or to a quit. A robot that cannot be reached ends the run
at once. The control loop ticks once, before any input, and then saves the preferences.

`run` is what the program itself does; `texts` adds the files it finds and leaves.
-/
namespace SpinnerRemote.Startup

def settingsFile : String := "settings.json"
def preferencesFile : String := "preferences.json"

def opening : List Log.Record :=
  [⟨.info, .logging, "Logging initialized"⟩, ⟨.info, .program, "Starting Melty Controller"⟩]

def started (settings : Settings) : List Log.Record :=
  [⟨.info, .simulator, "Using simulated robot '" ++ settings.deviceName ++ "'"⟩,
    ⟨.info, .service, "Link service started"⟩,
    ⟨.info, .control, s!"Control loop started ({Log.periodText settings.tickPeriod} tick)"⟩]

def ended : Option Console.Ending → List Log.Record
  | some .endOfInput => [⟨.info, .console, "Console input closed"⟩]
  | some (.unreadable fault) => [⟨.error, .program, s!"Console failed: {fault.message}"⟩]
  | _ => []

def closing : List Log.Record :=
  [⟨.info, .service, "Link service stopped"⟩, ⟨.info, .program, "Melty Controller stopped"⟩]

/-- What is logged if the preferences cannot be saved because a directory is in their place. -/
def unsaved : Log.Record :=
  ⟨.warn, .control, "Failed to save control preferences: Is a directory (os error 21)"⟩

structure Outcome where
  code : UInt32
  printed : String
  records : List Log.Record
  complaints : List String
  preferences : Preferences.Kept

def refused (error : Transport.Error) (preferences : Preferences.Kept) : Outcome :=
  let message := (Link.Error.ofUnavailable error).message
  { code := 1
    printed := ""
    records := opening ++ [⟨.error, .program, message⟩]
    complaints := [s!"Error: {message}"]
    preferences }

def run (settings : Settings) (preferences : Preferences.Kept) (input : List UInt8) : Outcome :=
  match Robot.Simulator.ofSettings settings with
  | .error error => refused error preferences
  | .ok robot =>
    let program := (Program.new settings settings.link robot preferences.store).advance 0
    let saved := { preferences with store := program.loop.store }.flush?
    let heard := (program.type input).endInput
    let final := heard.shutdown
    { code := 0
      printed := final.printed
      records := opening ++ started settings ++ (if saved.isNone then [unsaved] else []) ++
        heard.station.records ++ ended heard.console.ending ++
        final.station.records.drop heard.station.records.length ++ closing
      complaints := []
      preferences := saved.getD preferences }

structure Request where
  directory : String
  settings : Option (List UInt8)
  input : List UInt8
  environment : Option String

structure Texts where
  code : UInt32
  printed : String
  errors : List String
  disk : Disk

def preferencesPlace : Option Disk.Node → Preferences.Place
  | none => .missing
  | some (.file bytes) => .file bytes
  | some _ => .blocked

def brokenCode : UInt32 := 101

def texts (request : Request) : Texts :=
  let path := Disk.join request.directory
  let settings := Settings.ofBytes request.settings
  let disk := (Disk.withDirectory request.directory).write (path settingsFile)
    (request.settings.getD settings.text.toUTF8.toList)
  let (disk, opened) := Log.openFile disk request.directory settings.log (.ofMicroseconds 0)
  let preferences := Preferences.Kept.ofPlace (preferencesPlace (disk.look (path preferencesFile)))
  let outcome := run settings preferences request.input
  let filter := Log.Filter.choose request.environment settings.log.level
  let lines := Log.lines filter settings.log.showTarget outcome.records
  let shown := if settings.log.consoleLogging then lines else []
  let kept := match outcome.preferences.place with
    | .file bytes => disk.write (path preferencesFile) bytes
    | _ => disk
  let texts (errors : List String) (disk : Disk) : Texts :=
    { code := outcome.code, printed := outcome.printed, errors := errors ++ outcome.complaints, disk }
  match opened with
  | .unwanted => texts shown kept
  | .refused => texts ["Failed to initialize logging"] kept
  | .ready file =>
    texts shown (kept.change file (· ++ (String.join (lines.map (· ++ "\n"))).toUTF8.toList))
  | .broken =>
    { code := brokenCode, printed := "", errors := ["Cannot write the log file"], disk }

end SpinnerRemote.Startup
