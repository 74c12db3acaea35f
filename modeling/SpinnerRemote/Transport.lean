import SpinnerRemote.Uuid

/-!
The boundary to a Bluetooth radio. A call only starts work and is answered at once; what comes of it is
reported later as an event.

A caller does not run the radio. It is given the answers that the radio would give just now, and says
which calls it made and how each was answered, so that any radio can stand behind it.
-/
namespace SpinnerRemote.Transport

inductive Error where
  | adapterUnavailable (reason : String)
  | refused (reason : String)
  | unknownConnection (connection : Nat)
  deriving DecidableEq, Repr

def Error.message : Error → String
  | .adapterUnavailable reason => s!"no usable Bluetooth adapter: {reason}"
  | .refused reason => s!"transport refused the operation: {reason}"
  | .unknownConnection connection => s!"unknown connection handle {connection}"

structure Peripheral where
  address : Nat
  name : String
  deriving DecidableEq, Repr

/-- The handle of a connection. A radio that counts them in 32 bits gives one for each accepted connect, and
would need weeks of a thousand connects a second to come to the last; so they have no bound here. -/
abbrev Connection := Nat

structure Characteristic where
  uuid : Uuid
  handle : Nat
  deriving DecidableEq, Repr

structure Service where
  uuid : Uuid
  characteristics : List Characteristic
  deriving DecidableEq, Repr

def success : Int := 0

inductive Event where
  | discovered (peripheral : Peripheral)
  | connected (connection : Connection) (status : Int)
  | disconnected (connection : Connection) (status : Int)
  | services (connection : Connection) (status : Int) (services : List Service)
  | written (connection : Connection) (characteristic : Uuid) (status : Int)
  | notification (connection : Connection) (characteristic : Uuid) (bytes : List UInt8)
  deriving DecidableEq, Repr

def Event.connection? : Event → Option Connection
  | .discovered _ => none
  | .connected connection _ => some connection
  | .disconnected connection _ => some connection
  | .services connection _ _ => some connection
  | .written connection _ _ => some connection
  | .notification connection _ _ => some connection

/-- A call with the answer it got; the calls without an answer cannot be refused. -/
inductive Call where
  | startScan (name : String) (answer : Except Error Unit)
  | stopScan
  | connect (peripheral : Peripheral) (answer : Except Error Connection)
  | discoverServices (connection : Connection) (answer : Except Error Unit)
  | enableNotification (connection : Connection) (characteristic : Characteristic) (accepted : Bool)
  | write (connection : Connection) (characteristic : Characteristic) (bytes : List UInt8)
      (answer : Except Error Unit)
  | disconnect (connection : Connection)
  | close (connection : Connection)

/-- What the radio would answer to each call that has an answer, and whether its use is permitted. -/
structure Answers where
  permission : Bool
  startScan : String → Except Error Unit
  connect : Peripheral → Except Error Connection
  discoverServices : Connection → Except Error Unit
  enableNotification : Connection → Characteristic → Bool
  write : Connection → Characteristic → List UInt8 → Except Error Unit

end SpinnerRemote.Transport
