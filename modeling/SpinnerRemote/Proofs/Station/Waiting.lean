import SpinnerRemote.Proofs.Station.Coupling

/-!
The link never waits for what nobody will bring. A phase that waits is relieved by some events only, and in
every state of a run one of them is scheduled, set or queued: no order in which connections are asked to
end, deliveries are dropped and the robot is lost leaves the link waiting alone.
-/
namespace SpinnerRemote

open Transport (Answers Call Characteristic Connection Peripheral)
open Robot (Simulator)

namespace Link

def Phase.waits (limit : Option Nat) : Phase → Bool
  | .connecting _ _ (some _) => true
  | .discovering .. => limit.isSome
  | .ready _ _ _ pending _ => pending
  | _ => false

/-- An event that ends the wait of a phase. The services are not among them, since they can be dropped. -/
inductive Phase.RelievedBy : Phase → Event → Prop
  | connected {attempt : Nat} {peripheral : Peripheral} {connection : Connection} {status : Int} :
      RelievedBy (.connecting attempt peripheral (some connection))
        (.transport (.connected connection status))
  | timedOut {attempt : Nat} {peripheral : Peripheral} {connection : Connection} {found : PartialChannels} :
      RelievedBy (.discovering attempt peripheral connection found) (.timer (.discoveryTimedOut attempt))
  | written {peripheral : Peripheral} {connection : Connection} {channels : Channels}
      {pending rejected : Bool} {characteristic : Uuid} {status : Int} :
      RelievedBy (.ready peripheral connection channels pending rejected)
        (.transport (.written connection characteristic status))
  | disconnected {phase : Phase} {connection : Connection} {status : Int}
      (held : phase.connection? = some connection) :
      RelievedBy phase (.transport (.disconnected connection status))

variable {machine : Machine} {answers : Answers} {event : Event} {step : Step}

/-- Why a phase that waits after an event will be relieved. -/
inductive Relief (machine : Machine) (event : Event) (step : Step) : Prop
  | restless (free : step.machine.phase.waits machine.config.discoveryTimeout = false)
  | kept (waited : machine.phase.waits machine.config.discoveryTimeout = true)
      (other : ¬machine.phase.RelievedBy event)
      (same : ∀ later, machine.phase.RelievedBy later → step.machine.phase.RelievedBy later)
      (gentle : ∀ call ∈ step.calls, Simulator.drops call = false)
  | timed {timer : TimerEvent} (set : step.timer? = some timer)
      (relieved : step.machine.phase.RelievedBy (.timer timer))
  | connects {attempt : Nat} {peripheral : Peripheral} {connection : Connection}
      (phase : step.machine.phase = .connecting attempt peripheral (some connection))
      (made : step.calls = [.connect peripheral (.ok connection)])
  | writes {peripheral : Peripheral} {connection : Connection} {channels : Channels} {rejected : Bool}
      {characteristic : Characteristic} {bytes : List UInt8}
      (phase : step.machine.phase = .ready peripheral connection channels true rejected)
      (made : step.calls = [.write connection characteristic bytes (.ok ())])
  | ends {connection : Connection} (held : step.machine.phase.connection? = some connection)
      (made : step.calls = [.disconnect connection])

theorem not_relieved_of_inert (inert : machine.Inert answers event) : ¬machine.phase.RelievedBy event := by
  intro relieved
  generalize phase : machine.phase = current at relieved
  cases relieved with
  | connected => exact inert _ _ phase
  | timedOut => exact inert _ _ _ phase
  | written =>
    rcases inert with elsewhere | unready
    · exact elsewhere (by rw [phase]; rfl)
    · simp [Machine.isConnected, phase] at unready
  | disconnected held => exact inert (phase ▸ held)

theorem relief_of_kept (other : ¬machine.phase.RelievedBy event)
    (waited : step.machine.phase.waits machine.config.discoveryTimeout =
      machine.phase.waits machine.config.discoveryTimeout)
    (same : ∀ later, machine.phase.RelievedBy later → step.machine.phase.RelievedBy later)
    (gentle : ∀ call ∈ step.calls, Simulator.drops call = false) : Relief machine event step := by
  cases waits : step.machine.phase.waits machine.config.discoveryTimeout with
  | false => exact .restless waits
  | true => exact .kept (waited ▸ waits) other same gentle

theorem Outcome.relief (outcome : Outcome machine answers event step) : Relief machine event step := by
  cases outcome with
  | ignored inert =>
    exact relief_of_kept (not_relieved_of_inert inert) rfl (fun _ relieved => relieved)
      (by simp [Machine.stay])
  | scanForbidden | scanRefused | servicesFailed | measured =>
    refine relief_of_kept ?_ rfl (fun _ relieved => relieved) (by simp [Simulator.drops])
    generalize machine.phase = phase
    rintro ⟨⟩
  | searchedWithoutTelemetry discovering | searched discovering =>
    refine relief_of_kept ?_ (by rw [discovering]; rfl) ?_ (by simp [Simulator.drops])
    all_goals rw [discovering]
    · rintro ⟨⟩
    intro later relieved
    cases relieved with
    | timedOut => exact .timedOut
    | disconnected held => exact .disconnected held
  | connected =>
    cases limit : machine.config.discoveryTimeout with
    | none => exact .restless (by rw [limit]; rfl)
    | some time => exact .timed (by simp [Step.timer?]) .timedOut
  | connectAccepted => exact .connects rfl rfl
  | wrote => exact .writes rfl rfl
  -- These drop whatever was scheduled for the connection, and schedule its end instead.
  | disconnectRequested held => exact .ends held rfl
  | discoveryExpired discovering => exact .ends (by rw [discovering]; rfl) rfl
  | _ => exact .restless rfl

end Link

namespace Station

/-- All that is to reach the machine, but for requests. -/
def underWay (station : Station) : List Link.Event :=
  station.coming.map .transport ++ station.inFlight.map .timer

def Relieved (station : Station) : Prop :=
  station.machine.phase.waits station.machine.config.discoveryTimeout = true →
    ∃ event ∈ station.underWay, station.machine.phase.RelievedBy event

variable {station after : Station} {event : Link.Event}

@[simp] theorem transport_mem_underWay {report : Transport.Event} :
    .transport report ∈ station.underWay ↔ report ∈ station.coming := by
  simp [underWay]

@[simp] theorem timer_mem_underWay {timer : Link.TimerEvent} :
    .timer timer ∈ station.underWay ↔ timer ∈ station.inFlight := by
  simp [underWay]

theorem underWay_subset (coming : station.coming ⊆ after.coming)
    (inFlight : station.inFlight ⊆ after.inFlight) : station.underWay ⊆ after.underWay := by
  intro event member
  rcases List.mem_append.mp member with reports | timers
  · exact List.mem_append_left _ (List.map_subset _ coming reports)
  · exact List.mem_append_right _ (List.map_subset _ inFlight timers)

theorem Outside.underWay (outside : Outside station after) : station.underWay ⊆ after.underWay := by
  obtain ⟨more, lossless, -⟩ := outside.lossless
  have coming : station.coming ⊆ after.coming :=
    List.Subset.trans (List.subset_append_left _ more) lossless.symm.subset
  exact underWay_subset coming outside.inFlight.symm.subset

theorem Relieved.outside (relieved : station.Relieved) (outside : Outside station after) :
    after.Relieved := by
  unfold Relieved at relieved ⊢
  rw [outside.machine]
  intro waits
  obtain ⟨event, member, relief⟩ := relieved waits
  exact ⟨event, outside.underWay member, relief⟩

theorem underWay_dispatch
    (gentle : ∀ call ∈ (station.handling event).calls, Simulator.drops call = false) :
    station.underWay ⊆ (station.dispatch event).underWay :=
  underWay_subset (fun _ before => coming_dispatch_of_mem before gentle)
    (fun _ before => mem_inFlight_dispatch.mpr (.inl before))

theorem underWay_dispatch_of_starts {call : Call} {report : Transport.Event}
    (made : (station.handling event).calls = [call]) (started : report ∈ station.robot.starts call) :
    .transport report ∈ (station.dispatch event).underWay :=
  transport_mem_underWay.mpr (coming_dispatch_of_starts (by simp [made]) started)

/-- The relief may be the very event that is handled, which is no longer under way. -/
theorem Coupled.relieved_dispatch (coupled : station.Coupled)
    (relieved : station.machine.phase.waits station.machine.config.discoveryTimeout = true →
      ∃ other, station.machine.phase.RelievedBy other ∧ (other ∈ station.underWay ∨ other = event)) :
    (station.dispatch event).Relieved := by
  have outcome := Link.handle_outcome station.machine station.robot.answers event
  unfold Relieved
  rw [dispatch_machine, handling, outcome.config_eq]
  intro waits
  cases outcome.relief with
  | restless free => simp [free] at waits
  | kept waited other same gentle =>
    obtain ⟨later, relief, here | rfl⟩ := relieved waited
    · exact ⟨later, underWay_dispatch gentle here, same later relief⟩
    · exact absurd relief other
  | timed set relief =>
    exact ⟨_, timer_mem_underWay.mpr (mem_inFlight_dispatch.mpr (.inr set)), relief⟩
  | @connects attempt peripheral connection phase made =>
    have asked : .connect peripheral (.ok connection) ∈ (station.handling event).calls := by
      simp [handling, made]
    have next := next_of_connect asked
    refine ⟨_, underWay_dispatch_of_starts made (List.mem_singleton_self _), ?_⟩
    rw [phase, next]
    exact .connected
  | writes phase made =>
    refine ⟨_, underWay_dispatch_of_starts made (List.mem_singleton_self _), ?_⟩
    rw [phase]
    exact .written
  | @ends connection held made =>
    have asked : .disconnect connection ∈ (station.handling event).calls := by simp [handling, made]
    have known := coupled.subject_known asked rfl
    refine ⟨.transport (.disconnected connection Transport.success), ?_, .disconnected held⟩
    exact underWay_dispatch_of_starts made (by simp [Simulator.starts, known])

theorem mem_filterMap_queue {rest : List Link.Event} (queued : station.queue = event :: rest) {α : Type}
    {pick : Link.Event → Option α} {item : α} (member : item ∈ station.queue.filterMap pick) :
    item ∈ rest.filterMap pick ∨ pick event = some item := by
  rw [queued, List.mem_filterMap] at member
  obtain ⟨waiting, among, same⟩ := member
  rcases List.mem_cons.mp among with rfl | later
  · exact .inr same
  · exact .inl (List.mem_filterMap.mpr ⟨waiting, later, same⟩)

theorem underWay_of_queue {rest : List Link.Event} (queued : station.queue = event :: rest)
    {other : Link.Event} (member : other ∈ station.underWay) :
    other ∈ { station with queue := rest }.underWay ∨ other = event := by
  cases other with
  | transport report =>
    rw [transport_mem_underWay] at member ⊢
    exact ((mem_coming_of_queue queued).mp member).imp_right Eq.symm
  | timer timer =>
    rw [timer_mem_underWay] at member ⊢
    rcases List.mem_append.mp member with set | waits
    · exact .inl (List.mem_append_left _ set)
    · rcases mem_filterMap_queue queued waits with later | now
      · exact .inl (List.mem_append_right _ later)
      · exact .inr (Link.Event.timer?_eq_some.mp now).symm
  | scan | disconnect | send => simp [underWay] at member

theorem run_relieved {settings : Settings} {robot : Simulator}
    (built : Simulator.ofSettings settings = .ok robot) (config : Link.Config) (moves : List Move) :
    ((new config robot).run moves).Relieved := by
  induction moves using List.reverseRecOn with
  | nil =>
    intro waits
    cases waits
  | append_singleton moves move ih =>
    rw [run_snoc]
    rcases step_cases ((new config robot).run moves) move with
      ⟨-, outside⟩ | ⟨event, rest, queued, -, after⟩
    · exact ih.outside outside
    · -- That the robot knows the connection is what makes it report the end of one it was asked to end.
      rw [after]
      refine ((run_coupled built config moves).pop queued).relieved_dispatch fun waits => ?_
      obtain ⟨other, member, relief⟩ := ih waits
      exact ⟨other, relief, underWay_of_queue queued member⟩

/--
On the robot of any settings, with a link of any configuration, after any run: while the machine waits for a
connection, the report that it is there or that it is gone is scheduled or queued; while it waits for
services and the time for that is limited, the timer of this attempt is set or has run out, or the report
that the connection is gone is on its way; and while a write is under way, the report that it has ended or
that the connection is gone is.
-/
theorem never_waits_alone {settings : Settings} {robot : Simulator}
    (built : Simulator.ofSettings settings = .ok robot) (config : Link.Config) (moves : List Move) :
    (∀ attempt peripheral connection,
      ((new config robot).run moves).machine.phase = .connecting attempt peripheral (some connection) →
      ∃ status, .connected connection status ∈ ((new config robot).run moves).coming ∨
        .disconnected connection status ∈ ((new config robot).run moves).coming) ∧
    (∀ attempt peripheral connection found,
      ((new config robot).run moves).machine.phase = .discovering attempt peripheral connection found →
      config.discoveryTimeout ≠ none →
      .discoveryTimedOut attempt ∈ ((new config robot).run moves).inFlight ∨
        ∃ status, .disconnected connection status ∈ ((new config robot).run moves).coming) ∧
    ∀ peripheral connection channels rejected,
      ((new config robot).run moves).machine.phase = .ready peripheral connection channels true rejected →
      ∃ status, (∃ characteristic,
          .written connection characteristic status ∈ ((new config robot).run moves).coming) ∨
        .disconnected connection status ∈ ((new config robot).run moves).coming := by
  have relieved := run_relieved built config moves
  have configured : ((new config robot).run moves).machine.config = config := by
    rw [run_machine]
    exact Link.run_config config _
  rw [Relieved, configured] at relieved
  refine ⟨?_, ?_, ?_⟩
  · intro attempt peripheral connection phase
    rw [phase] at relieved
    obtain ⟨event, member, relief⟩ := relieved rfl
    cases relief with
    | connected => exact ⟨_, .inl (transport_mem_underWay.mp member)⟩
    | disconnected held =>
      cases held
      exact ⟨_, .inr (transport_mem_underWay.mp member)⟩
  · intro attempt peripheral connection found phase limited
    rw [phase] at relieved
    obtain ⟨event, member, relief⟩ := relieved (Option.isSome_iff_ne_none.mpr limited)
    cases relief with
    | timedOut => exact .inl (timer_mem_underWay.mp member)
    | disconnected held =>
      cases held
      exact .inr ⟨_, transport_mem_underWay.mp member⟩
  · intro peripheral connection channels rejected phase
    rw [phase] at relieved
    obtain ⟨event, member, relief⟩ := relieved rfl
    cases relief with
    | written => exact ⟨_, .inl ⟨_, transport_mem_underWay.mp member⟩⟩
    | disconnected held =>
      cases held
      exact ⟨_, .inr (transport_mem_underWay.mp member)⟩

/-- The connection is asked to end before it is there; this drops the report that it is. -/
def endedWhileConnecting : List Move := untilConnecting ++ [.request .disconnect, .handle]

def endedWhileDiscovering : List Move := untilDiscovering ++ [.request .disconnect, .handle]

def endedWhileWriting : List Move :=
  untilReady ++ [.request (.send ⟨5000, 25, 50, .forward, 1⟩), .handle, .request .disconnect,
    .request .disconnect, .powerOff, .handle, .handle]

theorem ended_never_waits_alone :
    Simulator.ofSettings {} = .ok defaultRobot ∧
      ((new {} defaultRobot).run endedWhileConnecting).machine.phase =
        .connecting 1 defaultRobot.robot (some 1) ∧
      (∃ status, .connected 1 status ∈ ((new {} defaultRobot).run endedWhileConnecting).coming ∨
        .disconnected 1 status ∈ ((new {} defaultRobot).run endedWhileConnecting).coming) ∧
      ((new {} defaultRobot).run endedWhileDiscovering).machine.phase =
        .discovering 1 defaultRobot.robot 1 {} ∧
      (.discoveryTimedOut 1 ∈ ((new {} defaultRobot).run endedWhileDiscovering).inFlight ∨
        ∃ status, .disconnected 1 status ∈ ((new {} defaultRobot).run endedWhileDiscovering).coming) ∧
      ((new {} defaultRobot).run endedWhileWriting).machine.isWritePending = true ∧
      ∃ status, (∃ characteristic,
          .written 1 characteristic status ∈ ((new {} defaultRobot).run endedWhileWriting).coming) ∨
        .disconnected 1 status ∈ ((new {} defaultRobot).run endedWhileWriting).coming := by
  have built : Simulator.ofSettings {} = .ok defaultRobot := rfl
  have connecting : ((new {} defaultRobot).run endedWhileConnecting).machine.phase =
      .connecting 1 defaultRobot.robot (some 1) := by decide
  have discovering : ((new {} defaultRobot).run endedWhileDiscovering).machine.phase =
      .discovering 1 defaultRobot.robot 1 {} := by decide
  have writing : ((new {} defaultRobot).run endedWhileWriting).machine.phase =
      .ready defaultRobot.robot 1
        ⟨⟨telemetryUuid, Robot.telemetryHandle⟩, ⟨configUuid, Robot.configHandle⟩⟩ true false := by
    decide
  exact ⟨built, connecting, (never_waits_alone built {} _).1 _ _ _ connecting, discovering,
    (never_waits_alone built {} _).2.1 _ _ _ _ discovering (by decide),
    by rw [Link.Machine.isWritePending, writing],
    (never_waits_alone built {} _).2.2 _ _ _ _ writing⟩

end Station
end SpinnerRemote
