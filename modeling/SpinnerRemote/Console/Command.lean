import SpinnerRemote.Control.Settings
import SpinnerRemote.Decimal.Numeral
import SpinnerRemote.Text.Blank

/-!
The operator's commands and the text in which they are given: words between blanks, of which the first
names the command in either case. Words beyond those a command takes are passed over.
-/
namespace SpinnerRemote.Console

inductive Command where
  | scan
  | disconnect
  | adjust (adjustment : Adjustment)
  /-- A tilt of the phone, in G. -/
  | tilt (forwardBack steer : Single)
  | status
  | help
  | quit
  deriving DecidableEq, Repr

inductive CommandError where
  | empty
  | unknown (name : String)
  | missingArgument (command expected : String)
  | invalidArgument (command value expected : String)
  deriving DecidableEq, Repr

def CommandError.message : CommandError → String
  | .empty => "Empty command"
  | .unknown name => "Unknown command '" ++ name ++ "'. Type 'help' for a list."
  | .missingArgument command expected => "'" ++ command ++ "' expects " ++ expected
  | .invalidArgument command value expected =>
    "Invalid value '" ++ value ++ "' for '" ++ command ++ "': expected " ++ expected

namespace Command

/-- What a command accepts as an argument: how it is read, and how an unreadable one is answered. -/
structure Argument (α : Type) where
  read : List Char → Option α
  expected : String

def Argument.parse {α : Type} (argument : Argument α) (command : String) (word : List Char) :
    Except CommandError α :=
  match argument.read word with
  | some value => .ok value
  | none => .error (.invalidArgument command (String.ofList word) argument.expected)

def unary {α : Type} (command missing : String) (argument : Argument α) :
    List (List Char) → Except CommandError α
  | [] => .error (.missingArgument command missing)
  | word :: _ => argument.parse command word

def slider : Argument Nat where
  read := Numeral.natural? sliderMax
  expected := "0-1000"

def byteUpTo (bound : UInt8) (word : List Char) : Option UInt8 :=
  (Numeral.natural? bound.toNat word).map .ofNat

def throttle : Argument UInt8 where
  read := byteUpTo throttleMax
  expected := "0-100"

def heading : Argument Adjustment where
  read
    | ['+'] => some .headingUp
    | ['-'] => some .headingDown
    | word => (byteUpTo (headingRange - 1) word).map .heading
  expected := "0-99, + or -"

def switch : Argument Bool where
  read word :=
    let word := String.ofList (Text.lowerAscii word)
    if word ∈ ["on", "true", "1"] then some true
    else if word ∈ ["off", "false", "0"] then some false
    else none
  expected := "on or off"

def tiltInG : Argument Single where
  read word := (Numeral.decimal? word).filter Binary.isFinite
  expected := "a number of G"

/-- Both arguments of a tilt have to be there before either is looked at. -/
def parseTilt : List (List Char) → Except CommandError Command
  | forwardBack :: steer :: _ => do
    let forwardBack ← tiltInG.parse "tilt" forwardBack
    let steer ← tiltInG.parse "tilt" steer
    return .tilt forwardBack steer
  | _ => .error (.missingArgument "tilt" "forward/back and steer tilt")

def ofWords (name : String) (arguments : List (List Char)) : Except CommandError Command :=
  match name with
  | "scan" => .ok .scan
  | "disconnect" => .ok .disconnect
  | "trim" => do return .adjust (.trim (← unary "trim" "a slider position" slider arguments))
  | "fine" => do return .adjust (.fine (← unary "fine" "a slider position" slider arguments))
  | "throttle" => do
    return .adjust (.throttle (← unary "throttle" "a throttle value" throttle arguments))
  | "heading" => do return .adjust (← unary "heading" "an offset, + or -" heading arguments)
  | "tilt-steer" => do
    return .adjust (.tiltSteer (← unary "tilt-steer" "on or off" switch arguments))
  | "heartbeat" => do return .adjust (.heartbeat (← unary "heartbeat" "on or off" switch arguments))
  | "foreground" => do
    return .adjust (.foreground (← unary "foreground" "on or off" switch arguments))
  | "tilt" => parseTilt arguments
  | "status" => .ok .status
  | "help" | "?" => .ok .help
  | "quit" | "exit" => .ok .quit
  | other => .error (.unknown other)

def parse (line : List Char) : Except CommandError Command :=
  match Text.words line with
  | [] => .error .empty
  | name :: arguments => ofWords (String.ofList (Text.lowerAscii name)) arguments

end Command
end SpinnerRemote.Console
