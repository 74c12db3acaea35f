import SpinnerRemote.Proofs.Station.Coupling

/-!
The robot's end of a connection. The robot lets go of its connection at once when it is told to end it or
is lost, and the machine, which holds it all the while, hears of that later. `run_tethered` says after any
run which connection is up at the robot: from the past, and from the ends that are on their way.
-/
namespace SpinnerRemote

open Transport (Answers Call Connection Peripheral)
open Robot (Simulator)

namespace Link

variable {machine : Machine} {answers : Answers} {event : Event} {step : Step}

/-- What an event does to the connection that is held. -/
inductive Course (machine : Machine) (event : Event) (step : Step) : Prop
  | spared (same : step.machine.phase.connection? = machine.phase.connection?)
      (goesOn : ∀ connection status, machine.phase.connection? = some connection →
        event ≠ .transport (.disconnected connection status))
      (gentle : ∀ call ∈ step.calls, Simulator.drops call = false ∧ openedBy? call = none)
  | begun {peripheral : Peripheral} {connection : Connection}
      (held : step.machine.phase.connection? = some connection)
      (made : step.calls = [.connect peripheral (.ok connection)])
  | asked {connection : Connection} (held : machine.phase.connection? = some connection)
      (same : step.machine.phase.connection? = machine.phase.connection?)
      (made : step.calls = [.disconnect connection])
  | ended {connection : Connection} {status : Int} (held : machine.phase.connection? = some connection)
      (heard : event = .transport (.disconnected connection status))
      (free : step.machine.phase.connection? = none) (made : step.calls = [.close connection])

theorem Outcome.calls_of_end (outcome : Outcome machine answers event step) {connection : Connection}
    {status : Int} (held : machine.phase.connection? = some connection)
    (heard : event = .transport (.disconnected connection status)) : step.calls = [.close connection] := by
  subst heard
  cases outcome with
  | ignored inert => exact absurd held inert
  | disconnected => rfl

theorem Outcome.course (outcome : Outcome machine answers event step) (bracketed : machine.Bracketed) :
    Course machine event step := by
  cases outcome.tenure bracketed with
  | began _ begun made => exact .begun (by rw [begun]; rfl) made
  | @ended connection held free made =>
    have closes : .close connection ∈ step.calls := by simp [made]
    obtain ⟨status, heard⟩ := outcome.closes closes
    exact .ended held heard free made
  | kept same opens closes =>
    have goesOn : ∀ connection status, machine.phase.connection? = some connection →
        event ≠ .transport (.disconnected connection status) := by
      intro connection status held heard
      simp [outcome.calls_of_end held heard, closed, closedBy?] at closes
    rcases outcome.calls with none | ⟨call, one, subject, -⟩
    · exact .spared same goesOn (by simp [none])
    · cases call with
      | disconnect connection => exact .asked (subject connection rfl) same one
      | close connection => simp [one, closed, closedBy?] at closes
      | connect peripheral answer =>
        cases answer with
        | error error => exact .spared same goesOn (by simp [one, Simulator.drops, openedBy?])
        | ok connection => simp [one, opened, openedBy?] at opens
      | _ => exact .spared same goesOn (by simp [one, Simulator.drops, openedBy?])

end Link

namespace Station

def LostOn (station : Station) (moves : List Move) (connection : Connection) : Prop :=
  ∃ earlier, earlier ++ [.powerOff] <+: moves ∧
    (station.run earlier).machine.phase.connection? = some connection

/-- The machine holds the connection or made a call on it, the robot was lost on it, or its end comes. -/
def Mentions (station : Station) (lost : Connection → Prop) (connection : Connection) : Prop :=
  station.machine.phase.connection? = some connection ∨
    (∃ call ∈ station.calls.map (·.2), Link.subject? call = some connection) ∨ lost connection ∨
    ∃ status, .disconnected connection status ∈ station.coming

/-- The connection that is up at the robot, from the past and from what is to come. -/
structure Tethered (station : Station) (lost : Connection → Prop) : Prop where
  fresh : ∀ connection, station.Mentions lost connection → connection < station.robot.nextConnection
  up : ∀ connection, station.robot.connection = some connection ↔
    station.machine.phase.connection? = some connection ∧
      .disconnect connection ∉ station.calls.map (·.2) ∧ ¬lost connection
  unheard : ∀ connection, station.machine.phase.connection? = some connection →
    (station.robot.connection = some connection ↔
      ∀ status, .disconnected connection status ∉ station.coming)
  closed : ∀ connection, .close connection ∈ station.calls.map (·.2) →
    station.machine.phase.connection? ≠ some connection

variable {station after : Station} {lost : Connection → Prop} {connection : Connection} {status : Int}

theorem lostOn_snoc {moves : List Move} {move : Move} :
    station.LostOn (moves ++ [move]) connection ↔ station.LostOn moves connection ∨
      move = .powerOff ∧ (station.run moves).machine.phase.connection? = some connection := by
  constructor
  · rintro ⟨earlier, front, held⟩
    rcases List.prefix_concat_iff.mp front with whole | before
    · obtain ⟨rfl, last⟩ := List.append_inj' whole rfl
      exact .inr ⟨(List.singleton_inj.mp last).symm, held⟩
    · exact .inl ⟨earlier, before, held⟩
  · rintro (⟨earlier, front, held⟩ | ⟨rfl, held⟩)
    · exact ⟨earlier, front.trans (List.prefix_append _ _), held⟩
    · exact ⟨moves, List.prefix_refl _, held⟩

/-- Nothing happens to the connections, but the end of one that is not held may be heard. -/
structure Level (before after : Station) : Prop where
  held : after.machine.phase.connection? = before.machine.phase.connection?
  calls : ∃ more, after.calls.map (·.2) = before.calls.map (·.2) ++ more ∧
    ∀ call ∈ more, Simulator.drops call = false ∧ ∀ connection,
      Link.subject? call = some connection → before.machine.phase.connection? = some connection
  connection : after.robot.connection = before.robot.connection
  next : after.robot.nextConnection = before.robot.nextConnection
  old : ∀ connection status, .disconnected connection status ∈ after.coming →
    .disconnected connection status ∈ before.coming
  kept : ∀ connection status, before.machine.phase.connection? = some connection →
    .disconnected connection status ∈ before.coming → .disconnected connection status ∈ after.coming

theorem Level.mem_calls (level : Level station after) {call : Call} (drops : Simulator.drops call = true) :
    call ∈ after.calls.map (·.2) ↔ call ∈ station.calls.map (·.2) := by
  obtain ⟨more, whole, gentle⟩ := level.calls
  rw [whole, List.mem_append]
  refine or_iff_left fun new => ?_
  simp [(gentle call new).1] at drops

theorem Level.mentions (level : Level station after) (mentioned : after.Mentions lost connection) :
    station.Mentions lost connection := by
  obtain ⟨more, whole, gentle⟩ := level.calls
  rw [Mentions, level.held, whole] at mentioned
  rcases mentioned with held | ⟨call, made, subject⟩ | gone | ⟨status, coming⟩
  · exact .inl held
  · rcases List.mem_append.mp made with before | new
    · exact .inr (.inl ⟨call, before, subject⟩)
    · exact .inl ((gentle call new).2 connection subject)
  · exact .inr (.inr (.inl gone))
  · exact .inr (.inr (.inr ⟨status, level.old _ _ coming⟩))

theorem Tethered.level (tethered : station.Tethered lost) (level : Level station after) :
    after.Tethered lost := by
  refine ⟨?_, ?_, ?_, ?_⟩
  · intro connection mentioned
    rw [level.next]
    exact tethered.fresh connection (level.mentions mentioned)
  · intro connection
    rw [level.connection, level.held, level.mem_calls rfl]
    exact tethered.up connection
  · intro connection held
    rw [level.held] at held
    rw [level.connection, tethered.unheard connection held]
    exact forall_congr' fun status => not_congr ⟨level.kept _ _ held, level.old _ _⟩
  · intro connection
    rw [level.held, level.mem_calls rfl]
    exact tethered.closed connection

/-! What happens outside of the machine. -/

theorem level_of_runJob (station : Station) (index : Nat) : Level station (station.runJob index) := by
  obtain ⟨jobs, same⟩ := station.robot.runJob_eq station.now index
  obtain ⟨more, lossless, routine⟩ := station.robot.runJob_lossless station.now index
  have coming : (station.runJob index).coming.Perm (station.coming ++ more) := coming_enqueue lossless
  refine ⟨rfl, ⟨[], by simp [runJob, enqueue], by simp⟩, ?_, ?_, ?_, ?_⟩
  · exact congrArg (·.connection) same
  · exact congrArg (·.nextConnection) same
  · intro connection status member
    rcases List.mem_append.mp (coming.subset member) with before | new
    · exact before
    · cases routine _ new
  · exact fun connection status _ before => coming.symm.subset (List.mem_append_left _ before)

theorem level_of_quiet (robot : after.robot = station.robot) (coming : after.coming = station.coming)
    (machine : after.machine = station.machine) (calls : after.calls = station.calls) :
    Level station after := by
  constructor <;> simp [robot, coming, machine, calls]

theorem level_step (station : Station) {move : Move} (unhandled : move ≠ .handle)
    (present : move ≠ .powerOff) : Level station (station.step move) := by
  cases move with
  | handle => exact absurd rfl unhandled
  | powerOff => exact absurd rfl present
  | job index => exact station.level_of_runJob index
  | request request =>
    refine level_of_quiet rfl ?_ rfl rfl
    cases request <;> simp [step, Station.request, coming, enqueue, Request.event, Link.Event.transport?]
  | timer index =>
    simp only [step, runTimer]
    split
    · exact level_of_quiet rfl (by simp [coming, enqueue, Link.Event.transport?]) rfl rfl
    · exact level_of_quiet rfl rfl rfl rfl
  | clock now => exact level_of_quiet rfl rfl rfl rfl

theorem powerOff_robot (station : Station) : station.powerOff.robot.connection = none ∧
    station.powerOff.robot.nextConnection = station.robot.nextConnection := by
  cases up : station.robot.connection <;> simp [powerOff, Simulator.powerOff, up, enqueue]

theorem mem_coming_powerOff {report : Transport.Event} : report ∈ station.powerOff.coming ↔
    report ∈ station.coming ∨ ∃ connection, station.robot.connection = some connection ∧
      report = .disconnected connection Robot.connectionTimeout := by
  cases up : station.robot.connection <;>
    simp [powerOff, Simulator.powerOff, up, enqueue, coming, Simulator.scheduled, Link.Event.transport?,
      or_assoc]

theorem Tethered.powerOff (tethered : station.Tethered lost) :
    station.powerOff.Tethered fun connection =>
      lost connection ∨ station.machine.phase.connection? = some connection := by
  obtain ⟨down, next⟩ := station.powerOff_robot
  have outside : Outside station station.powerOff :=
    outside_of_unprompted station.robot.powerOff_unprompted
  refine ⟨?_, ?_, ?_, ?_⟩
  · intro connection mentioned
    rw [Mentions, outside.machine, outside.calls] at mentioned
    rw [next]
    refine tethered.fresh connection ?_
    rcases mentioned with held | called | (gone | held) | ⟨status, coming⟩
    · exact .inl held
    · exact .inr (.inl called)
    · exact .inr (.inr (.inl gone))
    · exact .inl held
    · rcases mem_coming_powerOff.mp coming with before | ⟨connection, up, ⟨⟩⟩
      · exact .inr (.inr (.inr ⟨status, before⟩))
      · exact .inl ((tethered.up connection).mp up).1
  · intro connection
    rw [down, outside.machine]
    simp only [reduceCtorEq, false_iff]
    exact fun ⟨held, _, spared⟩ => spared (.inr held)
  · intro connection held
    rw [outside.machine] at held
    rw [down]
    simp only [reduceCtorEq, false_iff]
    intro silent
    -- Either the robot has just lost the connection, or the end of it was on its way before.
    have up := (tethered.unheard connection held).mpr fun status coming =>
      silent status (mem_coming_powerOff.mpr (.inl coming))
    exact silent _ (mem_coming_powerOff.mpr (.inr ⟨connection, up, rfl⟩))
  · rw [outside.machine, outside.calls]
    exact tethered.closed

/-! What the machine does. -/

section Handled

def handled (station : Station) (event : Link.Event) (rest : List Link.Event) : Station :=
  { station with queue := rest }.dispatch event

variable {event : Link.Event} {rest : List Link.Event}

theorem step_of_queue (queued : station.queue = event :: rest) :
    station.step .handle = station.handled event rest := by
  rw [step, queued]
  rfl

theorem handled_machine : (station.handled event rest).machine = (station.handling event).machine :=
  dispatch_machine _ _

theorem handled_calls : (station.handled event rest).calls.map (·.2) =
    station.calls.map (·.2) ++ (station.handling event).calls :=
  dispatch_calls _ _

theorem handled_robot {call : Call} (made : (station.handling event).calls = [call]) :
    (station.handled event rest).robot = station.robot.perform station.now call :=
  dispatch_robot_of_call _ _ made

theorem handled_robot_cases (station : Station) (event : Link.Event) (rest : List Link.Event) :
    (station.handling event).calls = [] ∧ (station.handled event rest).robot = station.robot ∨
      ∃ call, (station.handling event).calls = [call] ∧
        (station.handled event rest).robot = station.robot.perform station.now call :=
  dispatch_robot_cases { station with queue := rest } event

theorem handled_connections {call : Call} (made : (station.handling event).calls = [call])
    (rest : List Link.Event) :
    (station.handled event rest).robot.connection = station.robot.connectionAfter call ∧
      (station.handled event rest).robot.nextConnection = station.robot.nextAfter call := by
  rw [handled_robot made]
  exact station.robot.perform_connections station.now call

theorem mem_handled_calls {call : Call} : call ∈ (station.handled event rest).calls.map (·.2) ↔
    call ∈ station.calls.map (·.2) ∨ call ∈ (station.handling event).calls := by
  rw [handled_calls, List.mem_append]

theorem disconnect_of_starts {robot : Simulator} {call : Call}
    (started : .disconnected connection status ∈ robot.starts call) : call = .disconnect connection := by
  cases call with
  | disconnect other =>
    simp only [Simulator.starts] at started
    split at started
    · cases List.mem_singleton.mp started
      rfl
    · cases started
  | connect _ answer | discoverServices _ answer | write _ _ _ answer =>
    cases answer <;> simp [Simulator.starts] at started
  | _ => cases started

theorem connections_of_gentle (robot : Simulator) {call : Call} (gentle : Simulator.drops call = false)
    (opens : Link.openedBy? call = none) :
    robot.connectionAfter call = robot.connection ∧ robot.nextAfter call = robot.nextConnection := by
  rcases call with _ | _ | ⟨_, _ | _⟩ | _ | _ | _ | _ | _ <;>
    simp_all [Simulator.connectionAfter, Simulator.nextAfter, Link.openedBy?, Simulator.drops]

theorem handled_connections_of_gentle
    (gentle : ∀ call ∈ (station.handling event).calls,
      Simulator.drops call = false ∧ Link.openedBy? call = none) :
    (station.handled event rest).robot.connection = station.robot.connection ∧
      (station.handled event rest).robot.nextConnection = station.robot.nextConnection := by
  rcases station.handled_robot_cases event rest with ⟨-, after⟩ | ⟨call, one, -⟩
  · exact ⟨congrArg (·.connection) after, congrArg (·.nextConnection) after⟩
  · obtain ⟨connection, next⟩ := handled_connections one rest
    obtain ⟨drops, opens⟩ := gentle call (one ▸ List.mem_singleton_self call)
    rw [connection, next]
    exact connections_of_gentle station.robot drops opens

theorem end_of_handled (queued : station.queue = event :: rest)
    (member : .disconnected connection status ∈ (station.handled event rest).coming) :
    .disconnected connection status ∈ station.coming ∨
      .disconnect connection ∈ (station.handling event).calls := by
  rcases mem_coming_of_dispatch member with before | ⟨call, made, started⟩
  · exact .inl ((mem_coming_of_queue queued).mpr (.inl before))
  · cases disconnect_of_starts started
    exact .inr made

theorem mentions_of_handled (queued : station.queue = event :: rest)
    (mentioned : (station.handled event rest).Mentions lost connection) :
    station.Mentions lost connection ∨
      (station.handling event).machine.phase.connection? = some connection := by
  rcases mentioned with held | ⟨call, made, subject⟩ | gone | ⟨status, coming⟩
  · rw [handled_machine] at held
    exact .inr held
  · rcases mem_handled_calls.mp made with before | now
    · exact .inl (.inr (.inl ⟨call, before, subject⟩))
    · exact .inl (.inl (held_of_subject now subject))
  · exact .inl (.inr (.inr (.inl gone)))
  · rcases end_of_handled queued coming with before | now
    · exact .inl (.inr (.inr (.inr ⟨status, before⟩)))
    · exact .inl (.inl (held_of_subject now rfl))

theorem level_of_spared (queued : station.queue = event :: rest)
    (same : (station.handling event).machine.phase.connection? = station.machine.phase.connection?)
    (goesOn : ∀ connection status, station.machine.phase.connection? = some connection →
      event ≠ .transport (.disconnected connection status))
    (gentle : ∀ call ∈ (station.handling event).calls,
      Simulator.drops call = false ∧ Link.openedBy? call = none) :
    Level station (station.handled event rest) := by
  have unasked : ∀ connection, .disconnect connection ∉ (station.handling event).calls := by
    intro connection asked
    cases (gentle _ asked).1
  obtain ⟨up, next⟩ := handled_connections_of_gentle gentle
  refine ⟨?_, ⟨(station.handling event).calls, handled_calls, ?_⟩, up, next, ?_, ?_⟩
  · rw [handled_machine]
    exact same
  · exact fun call made => ⟨(gentle call made).1, fun connection => held_of_subject made⟩
  · intro connection status member
    exact (end_of_handled queued member).resolve_right (unasked connection)
  · intro connection status held before
    have waits := ((mem_coming_of_queue queued).mp before).resolve_right (goesOn connection status held)
    exact coming_dispatch_of_mem waits fun call made => (gentle call made).1

theorem Tethered.begun (tethered : station.Tethered lost) (queued : station.queue = event :: rest)
    {peripheral : Peripheral} (held : (station.handling event).machine.phase.connection? = some connection)
    (made : (station.handling event).calls = [.connect peripheral (.ok connection)]) :
    (station.handled event rest).Tethered lost := by
  obtain ⟨up, next⟩ := handled_connections made rest
  have holds : (station.handled event rest).machine.phase.connection? = some connection := by
    rw [handled_machine]
    exact held
  have unasked : ∀ connection, .disconnect connection ∉ (station.handling event).calls := by simp [made]
  have number : connection = station.robot.nextConnection := by
    have asked : .connect peripheral (.ok connection) ∈ (station.handling event).calls := by simp [made]
    exact next_of_connect asked
  have new : ¬station.Mentions lost connection := fun mentioned =>
    Nat.lt_irrefl _ (number ▸ tethered.fresh connection mentioned)
  refine ⟨?_, ?_, ?_, ?_⟩
  · intro other mentioned
    rw [next, Simulator.nextAfter]
    rcases mentions_of_handled queued mentioned with before | same
    · exact Nat.lt_succ_of_lt (tethered.fresh other before)
    · cases held.symm.trans same
      rw [number]
      exact Nat.lt_succ_self _
  · intro other
    rw [up, holds, Simulator.connectionAfter, ← number]
    refine (and_iff_left_of_imp ?_).symm
    rintro ⟨⟩
    refine ⟨fun asked => ?_, fun gone => new (.inr (.inr (.inl gone)))⟩
    exact new (.inr (.inl ⟨_, (mem_handled_calls.mp asked).resolve_right (unasked connection), rfl⟩))
  · intro other same
    cases holds.symm.trans same
    rw [up, Simulator.connectionAfter, ← number]
    refine iff_of_true rfl fun status coming => ?_
    have before := (end_of_handled queued coming).resolve_right (unasked connection)
    exact new (.inr (.inr (.inr ⟨status, before⟩)))
  · intro other closed same
    cases holds.symm.trans same
    rcases mem_handled_calls.mp closed with before | now
    · exact new (.inr (.inl ⟨_, before, rfl⟩))
    · simp [made] at now

theorem Tethered.asked (tethered : station.Tethered lost) (coupled : station.Coupled)
    (queued : station.queue = event :: rest)
    (held : station.machine.phase.connection? = some connection)
    (same : (station.handling event).machine.phase.connection? = station.machine.phase.connection?)
    (made : (station.handling event).calls = [.disconnect connection]) :
    (station.handled event rest).Tethered lost := by
  obtain ⟨up, next⟩ := handled_connections made rest
  have holds : (station.handled event rest).machine.phase.connection? = some connection := by
    rw [handled_machine]
    exact same.trans held
  have now : .disconnect connection ∈ (station.handling event).calls := by simp [made]
  have known : station.robot.isKnown connection = true := coupled.subject_known now rfl
  have down : ∀ other, (station.handled event rest).robot.connection ≠ some other := by
    intro other
    rw [up, Simulator.connectionAfter]
    split
    · simp
    next still =>
      intro upBefore
      cases held.symm.trans ((tethered.up other).mp upBefore).1
      exact still ⟨known, upBefore⟩
  refine ⟨?_, ?_, ?_, ?_⟩
  · intro other mentioned
    rw [next]
    rcases mentions_of_handled queued mentioned with before | still
    · exact tethered.fresh other before
    · exact tethered.fresh other (.inl (same ▸ still))
  · intro other
    refine iff_of_false (down other) ?_
    rintro ⟨still, unasked, -⟩
    cases holds.symm.trans still
    exact unasked (mem_handled_calls.mpr (.inr now))
  · intro other still
    cases holds.symm.trans still
    refine iff_of_false (down connection) fun silent => ?_
    refine silent Transport.success (coming_dispatch_of_starts now ?_)
    simp [Simulator.starts, known]
  · intro other closed
    rw [holds, ← held]
    rcases mem_handled_calls.mp closed with before | now
    · exact tethered.closed other before
    · simp [made] at now

theorem Tethered.ended (tethered : station.Tethered lost) (queued : station.queue = event :: rest)
    (held : station.machine.phase.connection? = some connection)
    (heard : event = .transport (.disconnected connection status))
    (free : (station.handling event).machine.phase.connection? = none)
    (made : (station.handling event).calls = [.close connection]) :
    (station.handled event rest).Tethered lost := by
  obtain ⟨up, next⟩ := handled_connections made rest
  have released : (station.handled event rest).machine.phase.connection? = none := by
    rw [handled_machine]
    exact free
  -- The machine lets go of the connection when it hears of the end, and the robot had done so before.
  have down : ∀ other, station.robot.connection ≠ some other := by
    intro other still
    cases held.symm.trans ((tethered.up other).mp still).1
    exact (tethered.unheard connection held).mp still status ((mem_coming_of_queue queued).mpr (.inr heard))
  refine ⟨?_, ?_, ?_, ?_⟩
  · intro other mentioned
    rw [next]
    refine tethered.fresh other ((mentions_of_handled queued mentioned).resolve_right ?_)
    simp [free]
  · intro other
    rw [up, released]
    exact iff_of_false (down other) (by simp)
  · intro other still
    cases released.symm.trans still
  · intro other _
    simp [released]

theorem Tethered.handled (tethered : station.Tethered lost) (coupled : station.Coupled)
    (bracketed : station.machine.Bracketed) (queued : station.queue = event :: rest) :
    (station.handled event rest).Tethered lost := by
  have outcome := Link.handle_outcome station.machine station.robot.answers event
  cases outcome.course bracketed with
  | spared same goesOn gentle => exact tethered.level (level_of_spared queued same goesOn gentle)
  | begun held made => exact tethered.begun queued held made
  | asked held same made => exact tethered.asked coupled queued held same made
  | ended held heard free made => exact tethered.ended queued held heard free made

end Handled

theorem Tethered.step (tethered : station.Tethered lost) (coupled : station.Coupled)
    (bracketed : station.machine.Bracketed) (move : Move) :
    (station.step move).Tethered fun connection =>
      lost connection ∨ move = .powerOff ∧ station.machine.phase.connection? = some connection := by
  cases move with
  | powerOff => simpa [Station.step] using tethered.powerOff
  | handle =>
    suffices (station.step .handle).Tethered lost by simpa using this
    cases queued : station.queue with
    | nil => simpa [Station.step, queued] using tethered
    | cons event rest =>
      rw [step_of_queue queued]
      exact tethered.handled coupled bracketed queued
  | _ => simpa using tethered.level (station.level_step (by simp) (by simp))

variable {settings : Settings} {robot : Simulator}

theorem run_tethered (built : Simulator.ofSettings settings = .ok robot) (config : Link.Config)
    (moves : List Move) :
    ((new config robot).run moves).Tethered ((new config robot).LostOn moves) := by
  induction moves using List.reverseRecOn with
  | nil =>
    rw [Simulator.eq_of_ofSettings built]
    constructor <;> simp [Mentions, LostOn, run, new, Link.Machine.new, Link.Phase.connection?, coming,
      Simulator.scheduled]
  | append_singleton moves move ih =>
    have since : (new config robot).LostOn (moves ++ [move]) = fun connection =>
        (new config robot).LostOn moves connection ∨
          move = .powerOff ∧ ((new config robot).run moves).machine.phase.connection? = some connection :=
      funext fun connection => propext lostOn_snoc
    rw [run_snoc, since]
    exact ih.step (run_coupled built config moves) (run_bracketed config robot moves) move

end Station
end SpinnerRemote
