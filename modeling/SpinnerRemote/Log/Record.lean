/-!
Log records: what the program says about its own work, at a level and under the name of the part of it
that speaks.
-/
namespace SpinnerRemote.Log

/-- The levels of records, and `off`, which no record has. Each includes those before it. -/
inductive Level where
  | off
  | error
  | warn
  | info
  | debug
  | trace
  deriving DecidableEq, Repr

namespace Level

def rank : Level → Nat
  | .off => 0
  | .error => 1
  | .warn => 2
  | .info => 3
  | .debug => 4
  | .trace => 5

def all : List Level := [.off, .error, .warn, .info, .debug, .trace]

def name : Level → String
  | .off => "OFF"
  | .error => "ERROR"
  | .warn => "WARN"
  | .info => "INFO"
  | .debug => "DEBUG"
  | .trace => "TRACE"

end Level

inductive Source where
  | program
  | control
  | service
  | link
  | scanner
  | simulator
  | logging
  | console
  deriving DecidableEq, Repr

def Source.target : Source → String
  | .program => "melty_controller"
  | .control => "melty_controller::domain::control"
  | .service => "melty_controller::infrastructure::bluetooth::service"
  | .link => "melty_controller::infrastructure::bluetooth::link"
  | .scanner => "melty_controller::infrastructure::bluetooth::scanner"
  | .simulator => "melty_controller::infrastructure::bluetooth::simulated"
  | .logging => "melty_controller::infrastructure::logging"
  | .console => "melty_controller::presentation::app"

structure Record where
  level : Level
  source : Source
  message : String
  deriving DecidableEq, Repr

end SpinnerRemote.Log
