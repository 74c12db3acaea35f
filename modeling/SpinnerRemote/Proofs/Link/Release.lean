import SpinnerRemote.Proofs.Link.Readiness
import SpinnerRemote.Proofs.Link.Writes

/-!
What ends a write. While one is under way on a connection, the machine takes every report of an ended write
on that connection for the end of this one, whatever characteristic the report names; nothing else but the
end of the connection lets the next write begin.
-/
namespace SpinnerRemote.Link

open Transport (Answers Connection Peripheral)

def Machine.BusyOn (machine : Machine) (connection : Connection) : Prop :=
  machine.isWritePending = true ∧ machine.phase.connection? = some connection

/-- The event reports that a write on the connection has ended, or that the connection has. -/
def Event.Frees (connection : Connection) (event : Event) : Prop :=
  (∃ characteristic status, event = .transport (.written connection characteristic status)) ∨
    ∃ status, event = .transport (.disconnected connection status)

def Turn.Writes (connection : Connection) (turn : Turn) : Prop :=
  ∃ characteristic bytes, .write connection characteristic bytes (.ok ()) ∈ turn.step.calls

variable {machine : Machine} {answers : Answers} {event : Event} {step : Step} {connection : Connection}

theorem busyOn_iff :
    machine.BusyOn connection ↔ ∃ peripheral channels rejected,
      machine.phase = .ready peripheral connection channels true rejected := by
  unfold Machine.BusyOn Machine.isWritePending
  cases machine.phase <;> simp [Phase.connection?, and_comm]

theorem not_frees_of_inert (inert : machine.Inert answers event) (busy : machine.BusyOn connection) :
    ¬event.Frees connection := by
  obtain ⟨peripheral, channels, rejected, ready⟩ := busyOn_iff.mp busy
  rintro (⟨characteristic, status, rfl⟩ | ⟨status, rfl⟩)
  · rcases inert with other | unready
    · exact other busy.2
    · simp [Machine.isConnected, ready] at unready
  · exact inert busy.2

/-- While a write is under way, an event either frees the connection or leaves it busy. -/
theorem Outcome.freed_or_busy (outcome : Outcome machine answers event step)
    (bracketed : machine.Bracketed) (busy : machine.BusyOn connection) :
    event.Frees connection ∧ step.machine.isWritePending = false ∨
      ¬event.Frees connection ∧ step.machine.BusyOn connection := by
  obtain ⟨peripheral, channels, rejected, ready⟩ := busyOn_iff.mp busy
  cases outcome with
  | ignored inert => exact .inr ⟨not_frees_of_inert inert busy, busy⟩
  | scanForbidden | scanRefused | disconnectRequested | servicesFailed | measured =>
    exact .inr ⟨by simp [Event.Frees], busy⟩
  | written phase =>
    have same := ready.symm.trans phase
    cases same
    exact .inl ⟨.inl ⟨_, _, rfl⟩, rfl⟩
  | disconnected held =>
    have same := busy.2.symm.trans held
    cases same
    exact .inl ⟨.inr ⟨_, rfl⟩, rfl⟩
  | wrote phase | writeRefused phase | scanStopped phase | connectForbidden phase | connectAccepted phase
  | connectRefused phase | discoveryExpired phase | found phase | connected phase
  | searchedWithoutTelemetry phase | searched phase | becameReady phase =>
    cases ready.symm.trans phase
  | scanStarted _ _ resting => simp [ready, Phase.AtRest] at resting
  | scanExpired running =>
    have scanning := bracketed.scanning running
    cases ready.symm.trans scanning

theorem Turn.busyOn (turn : Turn) (bracketed : turn.before.Bracketed) (busy : turn.before.BusyOn connection)
    (unfreed : ¬turn.moment.event.Frees connection) : turn.step.machine.BusyOn connection := by
  have outcome := handle_outcome turn.before turn.moment.answers turn.moment.event
  rcases outcome.freed_or_busy bracketed busy with ⟨frees, -⟩ | ⟨-, still⟩
  · exact absurd frees unfreed
  · exact still

theorem run_busyOn {moments : List Moment} (bracketed : machine.Bracketed) (busy : machine.BusyOn connection)
    (unfreed : ∀ turn ∈ machine.history moments, ¬turn.moment.event.Frees connection) :
    (machine.run moments).BusyOn connection := by
  induction moments generalizing machine with
  | nil => exact busy
  | cons moment rest ih =>
    have outcome := handle_outcome machine moment.answers moment.event
    have still := (Turn.mk machine moment).busyOn bracketed busy (unfreed _ List.mem_cons_self)
    exact ih (outcome.bracketed bracketed) still
      fun turn member => unfreed turn (List.mem_cons_of_mem _ member)

theorem Outcome.busyOn_of_write (outcome : Outcome machine answers event step)
    {characteristic : Transport.Characteristic} {bytes : List UInt8}
    (made : .write connection characteristic bytes (.ok ()) ∈ step.calls) :
    machine.isWritePending = false ∧ step.machine.BusyOn connection := by
  cases outcome with
  | wrote ready =>
    cases List.mem_singleton.mp made
    exact ⟨by simp [Machine.isWritePending, ready], rfl, rfl⟩
  | _ => simp [Machine.stay] at made

theorem Turn.Writes.busyOn {turn : Turn} (writes : turn.Writes connection) :
    turn.before.isWritePending = false ∧ turn.step.machine.BusyOn connection := by
  obtain ⟨_, _, made⟩ := writes
  exact (handle_outcome turn.before turn.moment.answers turn.moment.event).busyOn_of_write made

theorem freed_between_writes {config : Config} {moments : List Moment} {earlier between later : List Turn}
    {first second : Turn}
    (split : (Machine.new config).history moments = earlier ++ first :: between ++ second :: later)
    (writes : first.Writes connection) (again : second.Writes connection) :
    ∃ turn ∈ between, turn.moment.event.Frees connection := by
  obtain ⟨whole, _, -, upToSecond, reached, -, -⟩ := Machine.history_after split
  obtain ⟨front, middle, -, -, start, since, final⟩ := Machine.history_after upToSecond
  by_contra none
  have unfreed : ∀ turn ∈ first.step.machine.history middle, ¬turn.moment.event.Frees connection := by
    intro turn member frees
    exact none ⟨turn, since ▸ member, frees⟩
  have bracketed : first.step.machine.Bracketed := by
    have before := run_bracketed config front
    rw [start] at before
    exact (handle_outcome first.before first.moment.answers first.moment.event).bracketed before
  have busy := run_busyOn bracketed writes.busyOn.2 unfreed
  rw [final, reached] at busy
  have free := again.busyOn.1
  rw [busy.1] at free
  cases free

/--
While a write is under way on a connection, it stays so until a write on the connection is reported as
ended, of whatever characteristic, or the connection is; and each of these lets the next write begin. So
between two accepted writes on a connection there is a report of one of the two kinds.
-/
theorem any_report_ends_write (config : Config) (moments : List Moment) :
    (∀ peripheral connection channels rejected answers event,
      ((Machine.new config).run moments).phase = .ready peripheral connection channels true rejected →
      ((((Machine.new config).run moments).handle answers event).machine.isWritePending = true ↔
        ¬(∃ characteristic status, event = .transport (.written connection characteristic status)) ∧
          ¬∃ status, event = .transport (.disconnected connection status))) ∧
    ∀ earlier first between second later connection,
      (Machine.new config).history moments = earlier ++ first :: between ++ second :: later →
      first.Writes connection → second.Writes connection →
      ∃ turn ∈ between,
        (∃ characteristic status,
          turn.moment.event = .transport (.written connection characteristic status)) ∨
        ∃ status, turn.moment.event = .transport (.disconnected connection status) := by
  refine ⟨?_, ?_⟩
  · intro peripheral connection channels rejected answers event ready
    have busy := busyOn_iff.mpr ⟨peripheral, channels, rejected, ready⟩
    have outcome := handle_outcome ((Machine.new config).run moments) answers event
    rw [← not_or]
    rcases outcome.freed_or_busy (run_bracketed config moments) busy with ⟨frees, free⟩ | ⟨unfreed, still⟩
    · simp only [free, Bool.false_eq_true, false_iff, not_not]
      exact frees
    · exact iff_of_true still.1 unfreed
  · intro earlier first between second later connection split writes again
    exact freed_between_writes split writes again

def underWay : List Moment :=
  [⟨willing 1, .scan⟩, ⟨willing 1, .transport (.discovered ⟨7, robotName⟩)⟩,
    ⟨willing 1, .timer (.connectSettled 1)⟩, ⟨willing 1, .transport (.connected 1 0)⟩,
    ⟨willing 1, bothServed⟩, ⟨willing 1, .send (idleFrame 10)⟩]

/-- A write of the telemetry channel, which the machine never makes, is reported as ended. -/
def strayReport : Event := .transport (.written 1 telemetryUuid 0)

def writtenTwice : List Moment := underWay ++ [⟨willing 1, strayReport⟩, ⟨willing 1, .send (idleFrame 11)⟩]

theorem writtenTwice_freed_between :
    ((Machine.new {}).run underWay).phase = .ready ⟨7, robotName⟩ 1 bothChannels true false ∧
      (((Machine.new {}).run underWay).handle (willing 1) .disconnect).machine.isWritePending = true ∧
      ∃ earlier first between second later,
        (Machine.new {}).history writtenTwice = earlier ++ first :: between ++ second :: later ∧
        first.Writes 1 ∧ second.Writes 1 ∧ ∃ turn ∈ between,
          (∃ characteristic status, turn.moment.event = .transport (.written 1 characteristic status)) ∨
          ∃ status, turn.moment.event = .transport (.disconnected 1 status) := by
  have ready : ((Machine.new {}).run underWay).phase = .ready ⟨7, robotName⟩ 1 bothChannels true false := by
    decide
  have pending := (any_report_ends_write {} underWay).1 _ _ _ _ (willing 1) .disconnect ready
  let first : Turn := ⟨(Machine.new {}).run (writtenTwice.take 5), ⟨willing 1, .send (idleFrame 10)⟩⟩
  let second : Turn := ⟨(Machine.new {}).run (writtenTwice.take 7), ⟨willing 1, .send (idleFrame 11)⟩⟩
  have writes : first.Writes 1 := ⟨_, _, List.mem_singleton_self _⟩
  have again : second.Writes 1 := ⟨_, _, List.mem_singleton_self _⟩
  have split : (Machine.new {}).history writtenTwice = (Machine.new {}).history (writtenTwice.take 5) ++
      first :: first.step.machine.history [⟨willing 1, strayReport⟩] ++ [second] := rfl
  have freed := (any_report_ends_write {} writtenTwice).2 _ _ _ _ _ _ split writes again
  exact ⟨ready, pending.mpr (by simp), _, _, _, _, _, split, writes, again, freed⟩

/-- The config write is under way, the report is of the telemetry channel, and the next config write begins
without any report of the config channel. -/
theorem strayReport_ends_config_write :
    ((Machine.new {}).run underWay).phase = .ready ⟨7, robotName⟩ 1 bothChannels true false ∧
      bothChannels.config.uuid ≠ telemetryUuid ∧
      (((Machine.new {}).run underWay).handle (willing 1) strayReport).machine.isWritePending = false ∧
      accepted ((Machine.new {}).trace writtenTwice) 1 = 2 ∧
      ∀ moment ∈ writtenTwice, ∀ status,
        moment.event ≠ .transport (.written 1 bothChannels.config.uuid status) := by
  refine ⟨by decide, by decide, by decide, by decide, ?_⟩
  intro moment member status report
  have reported : moment.event.reports? = some 1 := by rw [report]; rfl
  have one : ∀ other ∈ writtenTwice, other.event.reports? = some 1 → other.event = strayReport := by decide
  rw [one moment member reported] at report
  cases report

end SpinnerRemote.Link
