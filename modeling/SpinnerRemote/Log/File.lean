import SpinnerRemote.Decimal.Layout
import SpinnerRemote.Disk
import SpinnerRemote.Settings.Basic
import SpinnerRemote.Text.Blank

/-!
Where log lines are kept: the directory, the files that take turns in it, and the calendar by which they
do.
-/
namespace SpinnerRemote.Log

structure Stamp where
  year : Nat
  month : Nat
  day : Nat
  hour : Nat
  minute : Nat
  second : Nat
  microsecond : Nat
  deriving DecidableEq, Repr

namespace Stamp

/--
The moment some microseconds after the beginning of 1970. Years are counted from March on, so that the
leap day is the last one, and in eras of four hundred of them, which have 146097 days each.
-/
def ofMicroseconds (microseconds : Nat) : Stamp :=
  let seconds := microseconds / 1000000
  let days := seconds / 86400 + 719468
  let dayOfEra := days % 146097
  let yearOfEra := (dayOfEra - dayOfEra / 1460 + dayOfEra / 36524 - dayOfEra / 146096) / 365
  let dayOfYear := dayOfEra - (365 * yearOfEra + yearOfEra / 4 - yearOfEra / 100)
  let monthFromMarch := (5 * dayOfYear + 2) / 153
  let month := if monthFromMarch < 10 then monthFromMarch + 3 else monthFromMarch - 9
  { year := yearOfEra + 400 * (days / 146097) + (if month ≤ 2 then 1 else 0)
    month
    day := dayOfYear - (153 * monthFromMarch + 2) / 5 + 1
    hour := seconds / 3600 % 24
    minute := seconds / 60 % 60
    second := seconds % 60
    microsecond := microseconds % 1000000 }

def date (stamp : Stamp) : List String :=
  [Decimal.padded 4 stamp.year, Decimal.padded 2 stamp.month, Decimal.padded 2 stamp.day]

def text (stamp : Stamp) : String :=
  "-".intercalate stamp.date ++ "T" ++
    ":".intercalate [Decimal.padded 2 stamp.hour, Decimal.padded 2 stamp.minute,
      Decimal.padded 2 stamp.second] ++
    "." ++ Decimal.padded 6 stamp.microsecond ++ "Z"

end Stamp

inductive Rotation where
  | daily
  | hourly
  | minutely
  | never
  deriving DecidableEq, Repr

namespace Rotation

/-- A rotation by its name in either case; any other word stands for a daily one. -/
def ofText (text : String) : Rotation :=
  match String.ofList (Text.lowerAscii text.toList) with
  | "hourly" => .hourly
  | "minutely" => .minutely
  | "never" => .never
  | _ => .daily

def mark (rotation : Rotation) (stamp : Stamp) : String :=
  let time :=
    match rotation with
    | .daily | .never => []
    | .hourly => [Decimal.padded 2 stamp.hour]
    | .minutely => [Decimal.padded 2 stamp.hour, Decimal.padded 2 stamp.minute]
  "-".intercalate (stamp.date ++ time)

end Rotation

def fileName (filePrefix : String) (rotation : Rotation) (stamp : Stamp) : String :=
  if filePrefix.isEmpty then rotation.mark stamp
  else
    match rotation with
    | .never => filePrefix
    | _ => filePrefix ++ "." ++ rotation.mark stamp

inductive Opened where
  | unwanted
  | refused
  | broken
  | ready (file : Disk.Location)
  deriving DecidableEq, Repr

/--
Makes the directory of the log files, which is relative to a base, and the first of them. The file's name
may lead further down; the directories for that are made if the file cannot be without them.
-/
def openFile (disk : Disk) (base : String) (settings : LogSettings) (stamp : Stamp) : Disk × Opened :=
  if ¬ settings.fileLogging then (disk, .unwanted)
  else
    let directory := Disk.join base settings.directory
    match disk.ensureAll directory with
    | (disk, some _) => (disk, .refused)
    | (disk, none) =>
      let name := fileName settings.filePrefix (.ofText settings.rotation) stamp
      let path := Disk.join directory name
      match disk.touch path with
      | .ok (disk, file) => (disk, .ready file)
      | .error _ =>
        match disk.ensureAbove path with
        | (disk, some _) => (disk, .broken)
        | (disk, none) =>
          match disk.touch path with
          | .ok (disk, file) => (disk, .ready file)
          | .error _ => (disk, .broken)

end SpinnerRemote.Log
