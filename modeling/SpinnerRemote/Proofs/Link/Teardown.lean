import SpinnerRemote.Proofs.Link.Asking

/-!
A connection that was asked to end before it was ready. The machine remembers that it has asked, but looks
at that only when the connection has ended, to tell an end from a loss. What comes before is handled as if
nothing had been asked, and the services of the robot still make the link ready if they arrive in time.
-/
namespace SpinnerRemote.Link

open Transport (Answers Connection Peripheral Service)

/-- The services of the connection are looked for and reported; both channels are among them, and the radio
switches telemetry on. -/
def Turn.Completes (config : Config) (connection : Connection) (turn : Turn) : Prop :=
  ∃ attempt peripheral found services telemetry settings,
    turn.before.phase = .discovering attempt peripheral connection found ∧
    turn.moment.event = .transport (.services connection Transport.success services) ∧
    (PartialChannels.locate config services).telemetry = some telemetry ∧
    (PartialChannels.locate config services).config = some settings ∧
    turn.moment.answers.enableNotification connection telemetry = true

variable {config : Config} {machine : Machine} {answers : Answers} {event : Event} {step : Step}
  {connection : Connection} {turn : Turn}

theorem Outcome.completes_of_readyOn (outcome : Outcome machine answers event step)
    (unready : ¬machine.ReadyOn connection) (after : step.machine.ReadyOn connection) :
    (Turn.mk machine ⟨answers, event⟩).Completes machine.config connection := by
  obtain ⟨ready, held⟩ := after
  cases outcome with
  | ignored | scanForbidden | scanRefused | disconnectRequested | discoveryExpired | servicesFailed
  | measured => exact absurd ⟨ready, held⟩ unready
  | wrote phase | writeRefused phase | written phase =>
    have before : machine.ReadyOn connection :=
      ⟨by simp [Machine.state, phase, Phase.state], by simpa [phase, Phase.connection?] using held⟩
    exact absurd before unready
  | becameReady discovering complete enabled =>
    have located := complete?_eq_some.mp complete
    cases held
    exact ⟨_, _, _, _, _, _, discovering, rfl, located.1, located.2, enabled⟩
  | _ => cases ready

theorem Outcome.held_of_services {status : Int} {services : List Service}
    (outcome : Outcome machine answers (.transport (.services connection status services)) step)
    (held : machine.phase.connection? = some connection) :
    step.machine.phase.connection? = some connection := by
  cases outcome with
  | ignored | servicesFailed => exact held
  | searchedWithoutTelemetry | searched | becameReady => rfl

theorem Turn.Completes.readyOn (completes : turn.Completes turn.before.config connection) :
    turn.step.machine.ReadyOn connection := by
  obtain ⟨_, _, _, services, _, _, discovering, report, telemetry, settings, enabled⟩ := completes
  have outcome := handle_outcome turn.before turn.moment.answers turn.moment.event
  have held : turn.before.phase.connection? = some connection := by
    rw [discovering]
    rfl
  rw [Turn.step, report] at *
  refine ⟨?_, outcome.held_of_services held⟩
  exact (ready_of_services_iff turn.moment.answers discovering services).mpr
    ⟨_, _, telemetry, settings, enabled⟩

/-- A connection that was not ready becomes so when its services complete it, and not otherwise. -/
theorem ready_iff_completes (moments : List Moment) (unready : ¬machine.ReadyOn connection) :
    (∃ turn ∈ machine.history moments, turn.step.machine.ReadyOn connection) ↔
      ∃ turn ∈ machine.history moments, turn.Completes machine.config connection := by
  induction moments generalizing machine with
  | nil => simp [Machine.history]
  | cons moment rest ih =>
    have outcome := handle_outcome machine moment.answers moment.event
    have same : (Turn.mk machine moment).step.machine.config = machine.config := outcome.config_eq
    simp only [Machine.history, List.mem_cons, exists_eq_or_imp]
    by_cases ready : (Turn.mk machine moment).step.machine.ReadyOn connection
    · exact iff_of_true (.inl ready) (.inl (outcome.completes_of_readyOn unready ready))
    · have incomplete : ¬(Turn.mk machine moment).Completes machine.config connection := by
        intro completes
        exact ready completes.readyOn
      rw [or_iff_right ready, or_iff_right incomplete, ← same]
      exact ih ready

/--
Asking for the end of a connection that is not ready yet goes unheeded until the connection has ended: the
run goes on as the one in which it was not asked, and all that differs is what is remembered, and that the
end is then logged as one that was expected. So the link still becomes ready on that connection, exactly
if its services are reported later with both channels and telemetry is switched on.
-/
theorem asked_end_goes_unheeded (config : Config) (moments : List Moment) (earlier later : List Turn)
    (asking : Turn) (connection : Connection)
    (split : (Machine.new config).history moments = earlier ++ asking :: later)
    (asks : asking.AsksToEnd connection) (unready : asking.before.state ≠ .ready) :
    (∃ front back unasked, moments = front ++ asking.moment :: back ∧
      (Machine.new config).history (front ++ back) = earlier ++ unasked ∧
      unasked.Forall₂ Turn.Alike later ∧
      ((Machine.new config).run (front ++ back)).MayHaveAsked ((Machine.new config).run moments)) ∧
    (∀ between turn rest status, later = between ++ turn :: rest →
      (∀ other ∈ between, ¬other.Parts connection) →
      turn.moment.event = .transport (.disconnected connection status) →
      turn.step.notices = [.ended status]) ∧
    ((∃ turn ∈ later, turn.step.machine.ReadyOn connection) ↔
      ∃ turn ∈ later, turn.Completes config connection) := by
  obtain ⟨front, back, same, before, reached, after, final⟩ := Machine.history_after split
  obtain ⟨remembers, held⟩ := asks.asked
  rw [remembers] at after final
  -- Asking leaves the scanner and the phase alone, so what holds of them before still does.
  have bracketed : asking.before.asked.Bracketed := by
    have before : asking.before.Bracketed := reached ▸ run_bracketed config front
    exact before
  refine ⟨⟨front, back, asking.before.history back, same, ?_, ?_, ?_⟩, ?_, ?_⟩
  · rw [Machine.history_append, before, reached]
  · rw [← after]
    exact (Machine.MayHaveAsked.run (.inr rfl) back).1
  · rw [Machine.run_append, reached, ← final]
    exact (Machine.MayHaveAsked.run (.inr rfl) back).2
  · rintro between turn rest status rfl unbroken report
    obtain ⟨passed, _, -, since, now⟩ := Machine.history_eq_append after
    have asked : asking.before.asked.HasAsked connection := ⟨rfl, held⟩
    have still := asked.run bracketed (since ▸ unbroken)
    have outcome := handle_outcome turn.before turn.moment.answers turn.moment.event
    rw [now] at still
    rw [Turn.step, report] at *
    exact outcome.notices_of_asked still
  · have setUp : asking.before.asked.config = config := by
      rw [← run_config config front, reached]
      rfl
    have started : ¬asking.before.asked.ReadyOn connection := fun ready => unready ready.1
    rw [← after, ← setUp]
    exact ready_iff_completes back started

/-- The operator asks for the end while connecting, and the discovery runs out of time, but the reports of
the connection and of its services are on their way. -/
def lateServices : List Moment :=
  [⟨willing 1, .scan⟩, ⟨willing 1, .transport (.discovered ⟨7, robotName⟩)⟩,
    ⟨willing 1, .timer (.connectSettled 1)⟩, ⟨willing 1, .disconnect⟩,
    ⟨willing 1, .transport (.connected 1 0)⟩, ⟨willing 1, .timer (.discoveryTimedOut 1)⟩,
    ⟨willing 1, bothServed⟩]

def givingUp : Turn := ⟨(Machine.new {}).run (lateServices.take 3), ⟨willing 1, .disconnect⟩⟩

def failing : Turn :=
  ⟨(Machine.new {}).run (lateServices.take 5), ⟨willing 1, .timer (.discoveryTimedOut 1)⟩⟩

theorem lateServices_unheeded :
    (Machine.new {}).history lateServices = (Machine.new {}).history (lateServices.take 3) ++
        givingUp :: givingUp.step.machine.history (lateServices.drop 4) ∧
      givingUp.AsksToEnd 1 ∧ givingUp.before.state = .connecting ∧
      ∃ turn ∈ givingUp.step.machine.history (lateServices.drop 4), turn.Completes {} 1 := by
  have asks : givingUp.AsksToEnd 1 := List.mem_singleton_self _
  have unheeded := asked_end_goes_unheeded {} lateServices ((Machine.new {}).history (lateServices.take 3))
    (givingUp.step.machine.history (lateServices.drop 4)) givingUp 1 rfl asks (by decide)
  let last : Turn := (givingUp.step.machine.history (lateServices.drop 4)).get ⟨2, by decide⟩
  have ready : last.step.machine.ReadyOn 1 := by decide
  exact ⟨rfl, asks, by decide, unheeded.2.2.mp ⟨last, List.get_mem _ _, ready⟩⟩

/-- The only connection of this run is asked to end while it is made, and once more when its discovery has
failed; then the link becomes ready on it. -/
theorem lateServices_ready_though_asked :
    (∃ earlier between later,
      (Machine.new {}).history lateServices = earlier ++ givingUp :: between ++ failing :: later) ∧
    (givingUp.moment.event = .disconnect ∧ givingUp.before.state = .connecting ∧ givingUp.AsksToEnd 1) ∧
    (failing.step.result = .error .discoveryIncomplete ∧ failing.before.state = .discovering ∧
      failing.AsksToEnd 1) ∧
    opened ((Machine.new {}).trace lateServices) = [1] ∧
    ((Machine.new {}).run lateServices).ReadyOn 1 := by
  refine ⟨⟨(Machine.new {}).history (lateServices.take 3),
    givingUp.step.machine.history [⟨willing 1, .transport (.connected 1 0)⟩],
    failing.step.machine.history [⟨willing 1, bothServed⟩], rfl⟩, ?_, ?_, by decide, by decide⟩
  · exact ⟨rfl, by decide, List.mem_singleton_self _⟩
  · exact ⟨rfl, by decide, List.mem_singleton_self _⟩

end SpinnerRemote.Link
