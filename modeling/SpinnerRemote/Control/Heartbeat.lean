import SpinnerRemote.Wire

/-!
The heartbeat: a marker in every frame that goes round while the controller is alive, at most one step
an interval. Times are milliseconds of a clock that may stand still or go back.
-/
namespace SpinnerRemote

def heartbeatFirst : UInt8 := 10
def heartbeatLast : UInt8 := 13

structure Heartbeat where
  interval : Nat
  value : UInt8 := heartbeatFirst
  lastAdvance : Option Nat := none
  deriving DecidableEq, Repr

namespace Heartbeat

/-- Whether a step is due: at the first active tick, and an interval after each step. -/
def due (heartbeat : Heartbeat) (now : Nat) : Bool :=
  match heartbeat.lastAdvance with
  | none => true
  | some last => heartbeat.interval ≤ now - last

def next (value : UInt8) : UInt8 := if heartbeatLast ≤ value then heartbeatFirst else value + 1

def tick (heartbeat : Heartbeat) (now : Nat) (active : Bool) : Heartbeat :=
  if active && heartbeat.due now then
    { heartbeat with value := next heartbeat.value, lastAdvance := some now }
  else heartbeat

end Heartbeat
end SpinnerRemote
