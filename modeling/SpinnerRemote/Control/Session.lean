import SpinnerRemote.Control.Loop

/-!
A control loop among all that happens to it: adjustments, samples, the link going up and down, saves
that fail, and ticks. A run is the fold of a list of happenings, and yields the outputs of its ticks; the
frames that were handed on and the output that is shown are part of the session.
-/
namespace SpinnerRemote.Control

inductive Happening where
  | adjust (adjustment : Adjustment)
  | sample (sample : AccelSample)
  | link (connected : Bool)
  | storage (works : Bool)
  | tick (now : Nat)

structure Session where
  loop : Loop
  settings : ControlSettings
  sample : Option AccelSample := none
  connected : Bool := false
  storageWorks : Bool := true
  /-- The frames that the link was given, the last one last. -/
  handed : List Frame := []
  published : Option Output := none

namespace Session

def new (limits : RadiusLimits) (interval : Nat) (preferences : Preferences) : Session where
  loop := { limits, heartbeat := { interval }, store := { preferences } }
  settings := ControlSettings.load preferences limits

def step (session : Session) : Happening → Session × Option Output
  | .adjust adjustment => ({ session with settings := session.settings.adjust adjustment }, none)
  | .sample sample => ({ session with sample := some sample }, none)
  | .link connected => ({ session with connected }, none)
  | .storage works => ({ session with storageWorks := works }, none)
  | .tick now =>
    let (loop, output) := session.loop.tick {
      now
      settings := session.settings
      sample := session.sample
      connected := session.connected }
    ({ session with
        loop := if session.storageWorks then loop.saved else loop
        handed := session.handed ++ output.sent.toList
        published := some output },
      some output)

def run (session : Session) : List Happening → Session × List Output
  | [] => (session, [])
  | happening :: rest =>
    let (next, output) := session.step happening
    let (last, outputs) := next.run rest
    (last, output.toList ++ outputs)

end Session
end SpinnerRemote.Control
