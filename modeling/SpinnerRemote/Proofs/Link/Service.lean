import SpinnerRemote.Proofs.Link.Run
import SpinnerRemote.Station

/-!
The service around the machine, over any radio: it hands one event after the other to the machine, shows
the state that follows, and sends the display what the step and its error have to tell. A station
dispatches its events in the same way, over the simulated robot and with their times.
-/
namespace SpinnerRemote.Link

open Transport (Answers)

def Step.reports (step : Step) : List AppEvent :=
  step.events ++
    match step.result with
    | .ok _ => []
    | .error error => [error.report]

/-- What the end of the service comes to: a link that is not idle is taken down as if that had been asked. -/
def Machine.shutdown (machine : Machine) : Step :=
  if machine.state = .idle then machine.stay else machine.disconnect

structure Service where
  machine : Machine
  published : State := .idle
  events : List AppEvent := []

namespace Service

def new (config : Config) : Service where
  machine := Machine.new config

def dispatch (service : Service) (moment : Moment) : Service :=
  let step := (Turn.mk service.machine moment).step
  { machine := step.machine
    published := step.machine.state
    events := service.events ++ step.reports }

def run (config : Config) (moments : List Moment) : Service :=
  moments.foldl dispatch (new config)

theorem run_snoc (config : Config) (moments : List Moment) (moment : Moment) :
    run config (moments ++ [moment]) = (run config moments).dispatch moment := by
  simp [run]

theorem run_machine (config : Config) (moments : List Moment) :
    (run config moments).machine = (Machine.new config).run moments := by
  induction moments using List.reverseRecOn with
  | nil => rfl
  | append_singleton moments moment ih => rw [run_snoc, Machine.run_snoc, ← ih]; rfl

end Service
end Link

namespace Station

def service (station : Station) : Link.Service where
  machine := station.machine
  published := station.published
  events := station.events.map (·.2)

theorem dispatch_service (station : Station) (event : Link.Event) :
    (station.dispatch event).service = station.service.dispatch ⟨station.robot.answers, event⟩ := by
  unfold dispatch Link.Service.dispatch Link.Step.reports
  simp only [Link.Turn.step, service]
  generalize station.machine.handle station.robot.answers event = step
  rcases step with ⟨machine, calls, notices, events, result⟩
  rcases result with error | _ | timer <;> simp [absorb, settleResult, publish, Function.comp_def]

theorem absorb_stay (station : Station) : station.absorb station.machine.stay = station := by
  simp [absorb, Link.Machine.stay]

theorem shutdown_eq_absorb (station : Station) :
    station.shutdown = station.absorb station.machine.shutdown := by
  unfold shutdown Link.Machine.shutdown
  split
  · rw [absorb_stay]
  · rfl

end Station
end SpinnerRemote
