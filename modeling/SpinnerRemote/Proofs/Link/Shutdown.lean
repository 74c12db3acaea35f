import SpinnerRemote.Proofs.Link.Scanning

/-!
The end of the service and the state that stays shown after it. The end takes the machine one step further
and sends what that step has to tell, but shows no state any more: `stopped_shows_last` gives the one case
in which what stays shown is not what was sent last.
-/
namespace SpinnerRemote.Link

/-- The end of the service. Those who watch the state keep the one that was shown last. -/
def Service.stop (service : Service) : Service :=
  { service with
    machine := service.machine.shutdown.machine
    events := service.events ++ service.machine.shutdown.events }

variable {machine : Machine} {answers : Transport.Answers} {step : Step}

theorem Outcome.state_of_disconnect (outcome : Outcome machine answers .disconnect step) :
    step.machine.state = if machine.state = .scanning then .idle else machine.state := by
  cases outcome with
  | ignored inert =>
    rw [if_neg (scanning_iff_state.not.mp inert.1)]
    rfl
  | scanStopped scanning =>
    rw [if_pos (scanning_iff_state.mp scanning)]
    rfl
  | disconnectRequested held =>
    rw [if_neg (scanning_iff_state.not.mp (not_scanning_of_held held))]
    rfl

theorem reports_of_disconnect (outcome : Outcome machine answers .disconnect step) :
    step.reports = step.events := by
  cases outcome <;> exact List.append_nil _

theorem Service.run_shows (config : Config) (moments : List Moment) :
    (run config moments).published = (run config moments).machine.state ∧
      lastState (run config moments).events = (run config moments).machine.state := by
  induction moments using List.reverseRecOn with
  | nil => exact ⟨rfl, rfl⟩
  | append_singleton moments moment ih =>
    have last := ih.2
    rw [run_machine] at last
    have telling := (handle_outcome ((Machine.new config).run moments) moment.answers
      moment.event).telling (run_bracketed config moments)
    rw [run_snoc, dispatch, run_machine]
    exact ⟨rfl, telling.last last⟩

theorem Service.stop_last (config : Config) (moments : List Moment) :
    lastState (run config moments).stop.events = (run config moments).stop.machine.state := by
  have last := (run_shows config moments).2
  have bracketed := run_bracketed config moments
  rw [← run_machine] at bracketed
  have outcome := shutdown_outcome (run config moments).machine (willing 1)
  have told := (outcome.telling bracketed).last last
  rw [reports_of_disconnect outcome] at told
  exact told

end Link

theorem Station.shutdown_service (station : Station) : station.shutdown.service = station.service.stop := by
  rw [shutdown_eq_absorb]
  simp [service, absorb, Link.Service.stop, Function.comp_def]

namespace Link

/--
The service is told to end after any run. The machine then is in the state that was sent last, no scan
is running, and the state that stays shown is the one before the end. So what is shown agrees with what was
sent last, and is not scanning, exactly if the machine was not scanning; if it was, scanning stays shown
although the link was last told to be idle.
-/
theorem stopped_shows_last (config : Config) (moments : List Moment) :
    let service := Service.run config moments
    let stopped := service.stop
    lastState stopped.events = stopped.machine.state ∧
      stopped.machine.state = (if service.machine.state = .scanning then .idle
        else service.machine.state) ∧
      stopped.machine.scanner.isScanning = false ∧
      stopped.published = service.machine.state ∧
      (stopped.published = lastState stopped.events ∧ stopped.published ≠ .scanning ↔
        service.machine.state ≠ .scanning) ∧
      ∀ station : Station, station.service = service → station.shutdown.service = stopped := by
  intro service stopped
  have bracketed : service.machine.Bracketed := by
    rw [Service.run_machine]
    exact run_bracketed config moments
  have outcome : Outcome service.machine (willing 1) .disconnect service.machine.shutdown :=
    shutdown_outcome _ _
  have last : lastState stopped.events = stopped.machine.state := Service.stop_last config moments
  have state : stopped.machine.state = _ := outcome.state_of_disconnect
  have shows : stopped.published = service.machine.state := (Service.run_shows config moments).1
  refine ⟨last, state, ?_, shows, ?_, ?_⟩
  · exact Bool.eq_false_iff.mpr fun running =>
      (outcome.parting bracketed).2 ((outcome.bracketed bracketed).mp running)
  · rw [shows, last, state]
    constructor
    · exact And.right
    · intro elsewhere
      exact ⟨(if_neg elsewhere).symm, elsewhere⟩
  · rintro station same
    rw [Station.shutdown_service, same]

/-- The service ends while it looks for the robot. -/
theorem scanning_stays_shown :
    let stopped := (Service.run {} [⟨willing 1, .scan⟩]).stop
    stopped.published = .scanning ∧ lastState stopped.events = .idle ∧
      ¬(stopped.published = lastState stopped.events ∧ stopped.published ≠ .scanning) := by
  decide

end Link
end SpinnerRemote
