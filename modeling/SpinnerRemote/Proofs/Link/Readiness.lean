import SpinnerRemote.Proofs.Link.Channels
import SpinnerRemote.Proofs.Link.Handles

/-!
What stands behind a link that is ready. The history of the run holds each stage of the way there, in
order and on one connection that has not ended since it was made: the sighting of a peripheral with the
robot's exact name, the accepted connect to that peripheral, the report that it is connected, and the
services with both channels, whose telemetry was switched on.
-/
namespace SpinnerRemote.Link

open Transport (Answers Call Characteristic Connection Peripheral Service)

def Turn.Sights (config : Config) (peripheral : Peripheral) (turn : Turn) : Prop :=
  turn.before.phase = .scanning ∧ turn.moment.event = .transport (.discovered peripheral) ∧
    peripheral.name = config.deviceName

def Turn.Joins (peripheral : Peripheral) (connection : Connection) (turn : Turn) : Prop :=
  .connect peripheral (.ok connection) ∈ turn.step.calls

def Turn.Greets (connection : Connection) (turn : Turn) : Prop :=
  ∃ status, turn.moment.event = .transport (.connected connection status)

def Turn.Serves (config : Config) (connection : Connection) (channels : Channels) (turn : Turn) : Prop :=
  (∃ services, turn.moment.event = .transport (.services connection Transport.success services) ∧
    (channels.telemetry ∈ offered services ∧ channels.telemetry.uuid = config.telemetry) ∧
    channels.config ∈ offered services ∧ channels.config.uuid = config.config) ∧
  .enableNotification connection channels.telemetry true ∈ turn.step.calls

def Turn.Parts (connection : Connection) (turn : Turn) : Prop :=
  ∃ status, turn.moment.event = .transport (.disconnected connection status)

/-- The later turns are those since a peripheral that had been sighted was joined, and none of them
parted from it. -/
structure JoinedSince (config : Config) (peripheral : Peripheral) (connection : Connection)
    (turns later : List Turn) : Prop where
  joined : ∃ earlier joining, turns = earlier ++ joining :: later ∧
    (∃ sighting ∈ earlier, sighting.Sights config peripheral) ∧ joining.Joins peripheral connection
  unbroken : ∀ turn ∈ later, ¬turn.Parts connection

/-- What the turns so far have to hold for a phase. -/
def Grounded (config : Config) (turns : List Turn) : Phase → Prop
  | .connecting _ peripheral none => ∃ sighting ∈ turns, sighting.Sights config peripheral
  | .connecting _ peripheral (some connection) =>
    ∃ later, JoinedSince config peripheral connection turns later
  | .discovering _ peripheral connection _ =>
    ∃ later, JoinedSince config peripheral connection turns later ∧
      ∃ greeting ∈ later, greeting.Greets connection
  | .ready peripheral connection channels _ _ =>
    ∃ later, JoinedSince config peripheral connection turns later ∧
      ∃ greeting serving, [greeting, serving].Sublist later ∧ greeting.Greets connection ∧
        serving.Serves config connection channels
  | _ => True

variable {config : Config} {turns later : List Turn} {peripheral : Peripheral} {connection : Connection}

theorem JoinedSince.snoc (since : JoinedSince config peripheral connection turns later) {turn : Turn}
    (unbroken : ¬turn.Parts connection) :
    JoinedSince config peripheral connection (turns ++ [turn]) (later ++ [turn]) where
  joined := by
    obtain ⟨earlier, joining, split, sighted, joins⟩ := since.joined
    exact ⟨earlier, joining, by simp [split], sighted, joins⟩
  unbroken := by
    intro other member
    rcases List.mem_append.mp member with before | last
    · exact since.unbroken other before
    · rw [List.mem_singleton.mp last]
      exact unbroken

theorem Grounded.keep {phase : Phase} (grounded : Grounded config turns phase) {turn : Turn}
    (unbroken : ∀ connection, phase.connection? = some connection → ¬turn.Parts connection) :
    Grounded config (turns ++ [turn]) phase := by
  cases phase with
  | idle | scanning | disconnected => trivial
  | connecting attempt peripheral connection =>
    cases connection with
    | none =>
      obtain ⟨sighting, member, sights⟩ := grounded
      exact ⟨sighting, List.mem_append_left _ member, sights⟩
    | some connection =>
      obtain ⟨later, since⟩ := grounded
      exact ⟨_, since.snoc (unbroken connection rfl)⟩
  | discovering attempt peripheral connection found =>
    obtain ⟨later, since, greeting, member, greets⟩ := grounded
    exact ⟨_, since.snoc (unbroken connection rfl), greeting, List.mem_append_left _ member, greets⟩
  | ready peripheral connection channels pending rejected =>
    obtain ⟨later, since, greeting, serving, order, greets, serves⟩ := grounded
    exact ⟨_, since.snoc (unbroken connection rfl), greeting, serving,
      order.trans (List.sublist_append_left _ _), greets, serves⟩

variable {machine : Machine} {answers : Answers} {event : Event} {step : Step}

theorem not_parts_of_inert (inert : machine.Inert answers event) (connection : Connection)
    (held : machine.phase.connection? = some connection) :
    ¬(Turn.mk machine ⟨answers, event⟩).Parts connection := by
  rintro ⟨status, report⟩
  obtain rfl : event = .transport (.disconnected connection status) := report
  exact inert held

theorem Outcome.grounded (outcome : Outcome machine answers event step)
    (taken : (Turn.mk machine ⟨answers, event⟩).step = step) (setUp : machine.config = config)
    (target : machine.scanner.target = config.deviceName)
    (grounded : Grounded config turns machine.phase) :
    Grounded config (turns ++ [⟨machine, ⟨answers, event⟩⟩]) step.machine.phase := by
  cases outcome with
  | ignored inert => exact grounded.keep (not_parts_of_inert inert)
  | scanForbidden | scanRefused | disconnectRequested | discoveryExpired | servicesFailed | measured =>
    exact grounded.keep (by rintro _ _ ⟨_, ⟨⟩⟩)
  | scanStarted | scanStopped | scanExpired | connectForbidden | connectRefused | disconnected => trivial
  | wrote phase | writeRefused phase | written phase | searchedWithoutTelemetry phase | searched phase =>
    rw [phase] at grounded
    refine Grounded.keep ?_ ?_
    · exact grounded
    · rintro _ _ ⟨_, ⟨⟩⟩
  | @found robot scanning isTarget =>
    have named : robot.name = machine.scanner.target := Scanner.isTarget_iff.mp isTarget
    exact ⟨_, List.mem_append_right _ (List.mem_singleton_self _), scanning, rfl, named.trans target⟩
  | connectAccepted settling =>
    rw [settling] at grounded
    refine ⟨[], ⟨turns, _, rfl, grounded, ?_⟩, by simp⟩
    rw [Turn.Joins, taken]
    exact List.mem_singleton_self _
  | connected connecting =>
    rw [connecting] at grounded
    obtain ⟨later, since⟩ := grounded
    exact ⟨_, since.snoc (by rintro ⟨_, ⟨⟩⟩), _, List.mem_append_right _ (List.mem_singleton_self _), _, rfl⟩
  | becameReady discovering complete enabled =>
    rw [discovering] at grounded
    rw [setUp] at complete
    obtain ⟨later, since, greeting, member, greets⟩ := grounded
    have located := complete?_eq_some.mp complete
    refine ⟨_, since.snoc (by rintro ⟨_, ⟨⟩⟩), greeting, _,
      (List.singleton_sublist.mpr member).append (List.Sublist.refl _), greets, ⟨_, rfl, ?_, ?_⟩, ?_⟩
    · exact PartialChannels.mem_of_locate_telemetry located.1
    · obtain ⟨offered, identified, -⟩ := PartialChannels.mem_of_locate_config located.2
      exact ⟨offered, identified⟩
    · rw [taken]
      exact List.mem_singleton_self _

theorem run_grounded (config : Config) (moments : List Moment) :
    Grounded config ((Machine.new config).history moments) ((Machine.new config).run moments).phase := by
  induction moments using List.reverseRecOn with
  | nil => trivial
  | append_singleton moments moment ih =>
    rw [Machine.history_snoc, Machine.run_snoc]
    exact (handle_outcome _ moment.answers moment.event).grounded rfl (run_config config moments)
      (run_target config moments) ih

theorem ready_of_services_iff {attempt : Nat} {found : PartialChannels} (answers : Answers)
    (discovering : machine.phase = .discovering attempt peripheral connection found)
    (services : List Service) :
    (machine.handle answers (.transport (.services connection Transport.success services))).machine.state =
        .ready ↔
      ∃ telemetry settings,
        (PartialChannels.locate machine.config services).telemetry = some telemetry ∧
        (PartialChannels.locate machine.config services).config = some settings ∧
        answers.enableNotification connection telemetry = true := by
  have outcome := handle_outcome machine answers
    (.transport (.services connection Transport.success services))
  generalize machine.handle answers _ = step at outcome ⊢
  cases outcome with
  | ignored inert => exact absurd discovering (inert _ _ _)
  | servicesFailed _ failed => exact absurd rfl failed
  | searchedWithoutTelemetry _ missing => simp [Machine.state, Phase.state, missing]
  | searched _ located answer incomplete =>
    rcases incomplete with refused | none
    · simp [Machine.state, Phase.state, located, answer, refused]
    · simp only [Machine.state, Phase.state, reduceCtorEq, false_iff]
      rintro ⟨telemetry, settings, first, second, -⟩
      have complete : (PartialChannels.locate machine.config services).complete? =
          some ⟨telemetry, settings⟩ := complete?_eq_some.mpr ⟨first, second⟩
      simp [complete] at none
  | becameReady _ complete enabled =>
    have located := complete?_eq_some.mp complete
    simp [Machine.state, Phase.state, located, enabled]

/--
Behind a ready link stand, in this order, the sighting of the robot under its exact name while it was
looked for, the accepted connect to this peripheral which gave the connection, the report that it is
connected, and the services with both channels, on which telemetry was switched on; the connection has not
been reported to have ended since the connect. Services that are found while they are looked for make the
link ready exactly if both channels are among them and telemetry can be switched on.
-/
theorem ready_has_grounds (config : Config) (moments : List Moment) :
    (∀ peripheral connection channels pending rejected,
      ((Machine.new config).run moments).phase = .ready peripheral connection channels pending rejected →
      ∃ earlier joining later greeting serving,
        (Machine.new config).history moments = earlier ++ joining :: later ∧
        (∃ sighting ∈ earlier, sighting.Sights config peripheral) ∧
        joining.Joins peripheral connection ∧
        [greeting, serving].Sublist later ∧
        greeting.Greets connection ∧ serving.Serves config connection channels ∧
        ∀ turn ∈ later, ¬turn.Parts connection) ∧
    ∀ attempt peripheral connection found answers services,
      ((Machine.new config).run moments).phase = .discovering attempt peripheral connection found →
      ((((Machine.new config).run moments).handle answers
          (.transport (.services connection Transport.success services))).machine.state = .ready ↔
        ∃ telemetry settings,
          (PartialChannels.locate config services).telemetry = some telemetry ∧
          (PartialChannels.locate config services).config = some settings ∧
          answers.enableNotification connection telemetry = true) := by
  refine ⟨?_, ?_⟩
  · intro peripheral connection channels pending rejected ready
    have grounded := run_grounded config moments
    rw [ready] at grounded
    obtain ⟨later, since, greeting, serving, order, greets, serves⟩ := grounded
    obtain ⟨earlier, joining, split, sighted, joins⟩ := since.joined
    exact ⟨earlier, joining, later, greeting, serving, split, sighted, joins, order, greets, serves,
      since.unbroken⟩
  · intro attempt peripheral connection found answers services discovering
    have iff := ready_of_services_iff answers discovering services
    rwa [run_config] at iff

def bothChannels : Channels := ⟨⟨telemetryUuid, 10⟩, ⟨configUuid, 13⟩⟩

def bothServices : List Service := [⟨serviceUuid, [bothChannels.telemetry, bothChannels.config]⟩]

def bothServed : Event := .transport (.services 1 Transport.success bothServices)

/-- The robot is lost when the link is ready, found again under the same handle, and refuses to send
telemetry. -/
def refusing : List Moment :=
  [⟨willing 1, .scan⟩, ⟨willing 1, .transport (.discovered ⟨7, robotName⟩)⟩,
    ⟨willing 1, .timer (.connectSettled 1)⟩, ⟨willing 1, .transport (.connected 1 0)⟩,
    ⟨willing 1, bothServed⟩, ⟨willing 1, .transport (.disconnected 1 8)⟩, ⟨willing 1, .scan⟩,
    ⟨willing 1, .transport (.discovered ⟨9, robotName⟩)⟩, ⟨willing 1, .timer (.connectSettled 2)⟩,
    ⟨willing 1, .transport (.connected 1 0)⟩,
    ⟨{ willing 1 with enableNotification := fun _ _ => false }, bothServed⟩]

def refound : List Moment := refusing ++ [⟨willing 1, bothServed⟩]

theorem refound_has_grounds :
    ((Machine.new {}).run refusing).phase =
        .discovering 2 ⟨9, robotName⟩ 1 ⟨some bothChannels.telemetry, some bothChannels.config⟩ ∧
      (((Machine.new {}).run refusing).handle (willing 1) bothServed).machine.state = .ready ∧
      ((Machine.new {}).run refound).phase = .ready ⟨9, robotName⟩ 1 bothChannels false false ∧
      ∃ earlier joining later, (Machine.new {}).history refound = earlier ++ joining :: later ∧
        joining.Joins ⟨9, robotName⟩ 1 ∧ ∀ turn ∈ later, ¬turn.Parts 1 := by
  have discovering : ((Machine.new {}).run refusing).phase =
      .discovering 2 ⟨9, robotName⟩ 1 ⟨some bothChannels.telemetry, some bothChannels.config⟩ := by decide
  have ready : ((Machine.new {}).run refound).phase = .ready ⟨9, robotName⟩ 1 bothChannels false false := by
    decide
  have found : (PartialChannels.locate {} bothServices).telemetry = some bothChannels.telemetry ∧
      (PartialChannels.locate {} bothServices).config = some bothChannels.config := by decide
  have becomesReady := (ready_has_grounds {} refusing).2 _ _ _ _ (willing 1) bothServices discovering
  obtain ⟨earlier, joining, later, -, -, split, -, joins, -, -, -, unbroken⟩ :=
    (ready_has_grounds {} refound).1 _ _ _ _ _ ready
  exact ⟨discovering, becomesReady.mpr ⟨_, _, found.1, found.2, rfl⟩, ready, earlier, joining, later, split,
    joins, unbroken⟩

end SpinnerRemote.Link
