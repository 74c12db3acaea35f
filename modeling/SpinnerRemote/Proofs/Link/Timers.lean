import Mathlib.Data.List.Infix
import Mathlib.Data.List.Nodup
import SpinnerRemote.Proofs.Link.Numbering

/-!
Timers under a driver that lets each timer run out once, at any time. What a phase waits for is always on
the way: the timeout of the running scan, the settling of the attempt, the timeout of the discovery unless
its connection was already asked to end. Hence nothing that a timer brings about comes twice.
-/
namespace SpinnerRemote.Link

open Transport (Answers Call Connection Peripheral)

/-- The timer was set once more than it has run out. -/
def InFlight (turns : List Turn) (timer : TimerEvent) : Prop :=
  (fired turns).count timer < (armed turns).count timer

instance (turns : List Turn) (timer : TimerEvent) : Decidable (InFlight turns timer) :=
  inferInstanceAs (Decidable (_ < _))

def Driven (config : Config) (moments : List Moment) : Prop :=
  ∀ earlier moment, earlier ++ [moment] <+: moments → ∀ timer, moment.event = .timer timer →
    InFlight ((Machine.new config).history earlier) timer

def AskedToEnd (calls : List Call) (connection : Connection) : Prop :=
  ∃ earlier later, calls = earlier ++ .disconnect connection :: later ∧
    ∀ call ∈ later, isConnect call = false

def Due (cause effect : Turn → Prop) (turns : List Turn) : Prop :=
  ∃ earlier start later, turns = earlier ++ start :: later ∧ cause start ∧ ∀ turn ∈ later, ¬effect turn

/-- Each effect comes after a cause with no effect between the two. -/
def OncePer (cause effect : Turn → Prop) (turns : List Turn) : Prop :=
  ∀ earlier turn later, turns = earlier ++ turn :: later → effect turn → Due cause effect earlier

def Turn.Fails (error : Error) (turn : Turn) : Prop := turn.step.result = .error error

def Turn.Connects (peripheral : Peripheral) (turn : Turn) : Prop :=
  ∃ answer, .connect peripheral answer ∈ turn.step.calls

variable {cause effect : Turn → Prop} {turns : List Turn} {turn : Turn}

theorem due_snoc_iff :
    Due cause effect (turns ++ [turn]) ↔ cause turn ∨ Due cause effect turns ∧ ¬effect turn :=
  exists_split_snoc_iff

theorem Due.start (starts : cause turn) : Due cause effect (turns ++ [turn]) :=
  due_snoc_iff.mpr (.inl starts)

theorem Due.snoc (due : Due cause effect turns) (without : ¬effect turn) :
    Due cause effect (turns ++ [turn]) :=
  due_snoc_iff.mpr (.inr ⟨due, without⟩)

theorem OncePer.snoc (once : OncePer cause effect turns) (due : effect turn → Due cause effect turns) :
    OncePer cause effect (turns ++ [turn]) := by
  intro earlier other later split
  exact forall_split_snoc once due earlier other later split

theorem oncePer_nil : OncePer cause effect [] := by
  intro earlier turn later split
  simp at split

/-! What a run has set and what has run out. -/

theorem fired_snoc (turns : List Turn) (turn : Turn) :
    fired (turns ++ [turn]) = fired turns ++ turn.moment.event.timer?.toList := by
  cases runsOut : turn.moment.event.timer? <;> simp [fired, runsOut]

variable {config : Config} {moments : List Moment} {moment : Moment}

theorem Driven.init (driven : Driven config (moments ++ [moment])) : Driven config moments := by
  intro earlier other front
  exact driven earlier other (front.trans (List.prefix_append _ _))

theorem Driven.last (driven : Driven config (moments ++ [moment])) {timer : TimerEvent}
    (runsOut : moment.event = .timer timer) : InFlight ((Machine.new config).history moments) timer :=
  driven moments moment (List.prefix_refl _) timer runsOut

theorem fired_le_armed (driven : Driven config moments) (timer : TimerEvent) :
    (fired ((Machine.new config).history moments)).count timer ≤
      (armed ((Machine.new config).history moments)).count timer := by
  induction moments using List.reverseRecOn with
  | nil => simp [fired, Machine.history]
  | append_singleton moments moment ih =>
    have before := ih driven.init
    rw [Machine.history_snoc, fired_snoc, armed_snoc, List.count_append, List.count_append]
    cases runsOut : moment.event.timer? with
    | none =>
      rw [Option.toList_none, List.count_nil]
      omega
    | some expiry =>
      by_cases same : expiry = timer
      · subst same
        have flying := driven.last (Event.timer?_eq_some.mp runsOut)
        unfold InFlight at flying
        simp
        omega
      · have still : (Option.toList (some expiry)).count timer = 0 := by simp [same]
        omega

theorem InFlight.snoc {timer : TimerEvent} (flying : InFlight turns timer)
    (other : turn.moment.event ≠ .timer timer) : InFlight (turns ++ [turn]) timer := by
  have still : turn.moment.event.timer?.toList.count timer = 0 := by
    rw [List.count_eq_zero, Option.mem_toList, Event.timer?_eq_some]
    exact other
  unfold InFlight at *
  rw [fired_snoc, armed_snoc, List.count_append, List.count_append, still]
  omega

theorem inFlight_of_set {timer : TimerEvent} (set : turn.step.timer? = some timer)
    (idle : turn.moment.event.timer? = none)
    (bound : (fired turns).count timer ≤ (armed turns).count timer) :
    InFlight (turns ++ [turn]) timer := by
  unfold InFlight
  rw [fired_snoc, armed_snoc, List.count_append, List.count_append, set, idle]
  simp
  omega

/-! What a machine waits for. -/

def Machine.awaited? (machine : Machine) : Option TimerEvent :=
  match machine.phase with
  | .scanning => machine.scanner.active.map .scanTimedOut
  | .connecting attempt _ none => some (.connectSettled attempt)
  | .discovering attempt _ _ _ => machine.config.discoveryTimeout.map fun _ => .discoveryTimedOut attempt
  | _ => none

variable {machine : Machine} {answers : Answers} {event : Event} {step : Step} {timer : TimerEvent}

theorem not_awaited_of_inert (inert : machine.Inert answers event)
    (awaited : machine.awaited? = some timer) : event ≠ .timer timer := by
  rintro rfl
  unfold Machine.awaited? at awaited
  split at awaited
  next scanning =>
    obtain ⟨scan, running, rfl⟩ := Option.map_eq_some_iff.mp awaited
    exact inert running
  next attempt peripheral settling =>
    cases awaited
    exact inert peripheral settling
  next attempt peripheral connection found discovering =>
    obtain ⟨limit, -, rfl⟩ := Option.map_eq_some_iff.mp awaited
    exact inert peripheral connection found discovering
  next => cases awaited

/-- A timer that is awaited after an event has just been set, or was awaited before; and then it has not
run out, or what it brought about is that the connection was asked to end. -/
theorem Outcome.awaited (outcome : Outcome machine answers event step)
    (awaited : step.machine.awaited? = some timer) :
    step.timer? = some timer ∧ event.timer? = none ∨
      machine.awaited? = some timer ∧ step.machine.phase.connection? = machine.phase.connection? ∧
        (event ≠ .timer timer ∨
          ∃ connection, machine.phase.connection? = some connection ∧
            step.calls = [.disconnect connection]) := by
  cases outcome with
  | ignored inert => exact .inr ⟨awaited, rfl, .inl (not_awaited_of_inert inert awaited)⟩
  | scanForbidden | scanRefused | disconnectRequested | servicesFailed | measured =>
    exact .inr ⟨awaited, rfl, .inl (by simp)⟩
  | discoveryExpired discovering =>
    exact .inr ⟨awaited, rfl, .inr ⟨_, by rw [discovering]; rfl, rfl⟩⟩
  | scanStarted | found => exact .inl ⟨awaited, rfl⟩
  | connected =>
    obtain ⟨limit, (limited : machine.config.discoveryTimeout = some limit), rfl⟩ :=
      Option.map_eq_some_iff.mp awaited
    exact .inl ⟨by simp [Step.timer?, limited], rfl⟩
  | searchedWithoutTelemetry discovering | searched discovering =>
    refine .inr ⟨?_, by rw [discovering]; rfl, .inl (by simp)⟩
    simpa [Machine.awaited?, discovering] using awaited
  | scanStopped | scanExpired | wrote | writeRefused | written | connectForbidden | connectAccepted
  | connectRefused | disconnected | becameReady => cases awaited

theorem askedToEnd_append {calls more : List Call} {connection : Connection}
    (asked : AskedToEnd calls connection) (without : ∀ call ∈ more, isConnect call = false) :
    AskedToEnd (calls ++ more) connection := by
  obtain ⟨earlier, later, split, none⟩ := asked
  refine ⟨earlier, later ++ more, by simp [split], ?_⟩
  intro call member
  exact (List.mem_append.mp member).elim (none call) (without call)

theorem Outcome.no_connect (outcome : Outcome machine answers event step) {connection : Connection}
    (held : machine.phase.connection? = some connection) : ∀ call ∈ step.calls, isConnect call = false := by
  intro call member
  rcases outcome.calls with none | ⟨made, one, -, connects⟩
  · simp [none] at member
  · rw [one, List.mem_singleton] at member
    subst member
    simpa [held] using connects

theorem run_awaited (driven : Driven config moments)
    (awaited : ((Machine.new config).run moments).awaited? = some timer) :
    InFlight ((Machine.new config).history moments) timer ∨
      ∃ connection, ((Machine.new config).run moments).phase.connection? = some connection ∧
        AskedToEnd ((Machine.new config).trace moments) connection := by
  induction moments using List.reverseRecOn with
  | nil => cases awaited
  | append_singleton moments moment ih =>
    have outcome := handle_outcome ((Machine.new config).run moments) moment.answers moment.event
    rw [Machine.run_snoc] at awaited ⊢
    rw [Machine.history_snoc, Machine.trace_snoc]
    rcases outcome.awaited awaited with ⟨set, idle⟩ | ⟨before, same, kept⟩
    · exact .inl (inFlight_of_set set idle (fired_le_armed driven.init timer))
    · rcases ih driven.init before with flying | ⟨connection, held, asked⟩
      · rcases kept with other | ⟨connection, held, asks⟩
        · exact .inl (flying.snoc other)
        · exact .inr ⟨connection, same.trans held, _, [], by rw [Turn.step, asks], by simp⟩
      · exact .inr ⟨connection, same.trans held, askedToEnd_append asked (outcome.no_connect held)⟩

/-! What a timer brings about, and what must have come before. -/

theorem Outcome.of_scanTimeout (outcome : Outcome machine answers event step)
    (fails : step.result = .error .scanTimeout) : ∃ scan, machine.scanner.active = some scan := by
  cases outcome with
  | scanExpired running => exact ⟨_, running⟩
  | @writeRefused _ _ _ _ rejected => cases rejected <;> simp at fails
  | _ => simp [Machine.stay] at fails

theorem Outcome.of_connect (outcome : Outcome machine answers event step) {peripheral : Peripheral}
    {answer : Except Transport.Error Connection} (connects : .connect peripheral answer ∈ step.calls) :
    ∃ attempt, machine.phase = .connecting attempt peripheral none := by
  cases outcome with
  | connectAccepted settling | connectRefused settling =>
    cases List.mem_singleton.mp connects
    exact ⟨_, settling⟩
  | _ => simp [Machine.stay] at connects

theorem Outcome.of_discoveryIncomplete (outcome : Outcome machine answers event step)
    (fails : step.result = .error .discoveryIncomplete) :
    ∃ attempt connection, machine.phase.attempt? = some attempt ∧
      machine.phase.connection? = some connection ∧ event = .timer (.discoveryTimedOut attempt) := by
  cases outcome with
  | discoveryExpired discovering =>
    exact ⟨_, _, by rw [discovering]; rfl, by rw [discovering]; rfl, rfl⟩
  | @writeRefused _ _ _ _ rejected => cases rejected <;> simp at fails
  | _ => simp [Machine.stay] at fails

theorem Outcome.scanning (outcome : Outcome machine answers event step)
    (scanning : step.machine.phase = .scanning) :
    step.beginsScan = true ∨ machine.phase = .scanning ∧ step.result ≠ .error .scanTimeout := by
  cases outcome with
  | scanStarted => exact .inl rfl
  | ignored | scanForbidden | scanRefused | disconnectRequested | measured | discoveryExpired
  | servicesFailed => exact .inr ⟨scanning, by simp [Machine.stay]⟩
  | _ => cases scanning

theorem Outcome.settling (outcome : Outcome machine answers event step) {attempt : Nat}
    {peripheral : Peripheral} (settling : step.machine.phase = .connecting attempt peripheral none) :
    machine.takes? event = some peripheral ∨
      machine.phase = .connecting attempt peripheral none ∧ ∀ call ∈ step.calls, isConnect call = false := by
  cases outcome with
  | found scanning target =>
    cases settling
    exact .inl (if_pos ⟨scanning, target⟩)
  | ignored | scanForbidden | scanRefused | disconnectRequested | measured | discoveryExpired
  | servicesFailed => exact .inr ⟨settling, by simp [Machine.stay, isConnect]⟩
  | _ => cases settling

theorem Outcome.joined (outcome : Outcome machine answers event step) {attempt : Nat}
    {connection : Connection} (current : step.machine.phase.attempt? = some attempt)
    (held : step.machine.phase.connection? = some connection) :
    (∃ peripheral, .connect peripheral (.ok connection) ∈ step.calls) ∨
      machine.phase.attempt? = some attempt ∧ machine.phase.connection? = some connection := by
  cases outcome with
  | connectAccepted =>
    cases held
    exact .inl ⟨_, List.mem_singleton_self _⟩
  | ignored | scanForbidden | scanRefused | disconnectRequested | measured | discoveryExpired
  | servicesFailed => exact .inr ⟨current, held⟩
  | connected phase | searchedWithoutTelemetry phase | searched phase =>
    rw [phase]
    exact .inr ⟨current, held⟩
  | found => cases held
  | _ => cases current

/-- Scans, attempts and connects that may still bring about what they do at most once. -/
structure Punctual (turns : List Turn) (machine : Machine) : Prop where
  timeouts : OncePer Turn.BeginsScan (Turn.Fails .scanTimeout) turns
  scanning : machine.phase = .scanning → Due Turn.BeginsScan (Turn.Fails .scanTimeout) turns
  connects : ∀ peripheral, OncePer (Turn.Takes peripheral) (Turn.Connects peripheral) turns
  settling : ∀ attempt peripheral, machine.phase = .connecting attempt peripheral none →
    Due (Turn.Takes peripheral) (Turn.Connects peripheral) turns
  failures : OncePer (fun turn => ∃ peripheral, turn.Connects peripheral)
    (Turn.Fails .discoveryIncomplete) turns
  joined : ∀ attempt connection, machine.phase.attempt? = some attempt →
    machine.phase.connection? = some connection → .discoveryTimedOut attempt ∉ fired turns →
    Due (fun turn => ∃ peripheral, turn.Connects peripheral) (Turn.Fails .discoveryIncomplete) turns

theorem punctual_new (config : Config) : Punctual [] (Machine.new config) where
  timeouts := oncePer_nil
  scanning := by simp [Machine.new]
  connects _ := oncePer_nil
  settling := by simp [Machine.new]
  failures := oncePer_nil
  joined := by simp [Machine.new, Phase.attempt?]

theorem not_fired_of_inFlight (distinct : (armed turns).Nodup) (flying : InFlight turns timer) :
    timer ∉ fired turns := by
  have single := List.nodup_iff_count_le_one.mp distinct timer
  rw [← List.count_eq_zero]
  unfold InFlight at flying
  omega

theorem Punctual.next (punctual : Punctual turns turn.before) (bracketed : turn.before.Bracketed)
    (distinct : (armed turns).Nodup)
    (driven : ∀ timer, turn.moment.event = .timer timer → InFlight turns timer) :
    Punctual (turns ++ [turn]) turn.step.machine := by
  have outcome := handle_outcome turn.before turn.moment.answers turn.moment.event
  refine ⟨punctual.timeouts.snoc ?_, ?_, ?_, ?_, punctual.failures.snoc ?_, ?_⟩
  · intro fails
    obtain ⟨scan, running⟩ := outcome.of_scanTimeout fails
    exact punctual.scanning (bracketed.scanning running)
  · intro scanning
    rcases outcome.scanning scanning with began | ⟨before, without⟩
    · exact .start began
    · exact (punctual.scanning before).snoc without
  · intro peripheral
    refine (punctual.connects peripheral).snoc ?_
    rintro ⟨answer, connects⟩
    obtain ⟨attempt, settling⟩ := outcome.of_connect connects
    exact punctual.settling attempt peripheral settling
  · intro attempt peripheral settling
    rcases outcome.settling settling with takes | ⟨before, without⟩
    · exact .start takes
    · refine (punctual.settling attempt peripheral before).snoc ?_
      rintro ⟨answer, connects⟩
      exact absurd (without _ connects) (by simp [isConnect])
  · intro fails
    obtain ⟨attempt, connection, current, held, runsOut⟩ := outcome.of_discoveryIncomplete fails
    exact punctual.joined attempt connection current held
      (not_fired_of_inFlight distinct (driven _ runsOut))
  · intro attempt connection current held pending
    rw [fired_snoc] at pending
    rcases outcome.joined current held with ⟨peripheral, connects⟩ | ⟨before, heldBefore⟩
    · exact .start ⟨peripheral, _, connects⟩
    · refine (punctual.joined attempt connection before heldBefore
        (fun member => pending (List.mem_append_left _ member))).snoc ?_
      intro fails
      obtain ⟨other, _, same, -, runsOut⟩ := outcome.of_discoveryIncomplete fails
      rw [before] at same
      cases same
      exact pending (List.mem_append_right _ (by simp [runsOut, Event.timer?]))

theorem run_punctual (driven : Driven config moments) :
    Punctual ((Machine.new config).history moments) ((Machine.new config).run moments) := by
  induction moments using List.reverseRecOn with
  | nil => exact punctual_new config
  | append_singleton moments moment ih =>
    rw [Machine.history_snoc, Machine.run_snoc]
    exact (ih driven.init).next (run_bracketed config moments) (run_numbered config moments).distinct
      (fun timer runsOut => driven.last runsOut)

/--
No timer is set twice. The timeout of a running scan is in flight, and so is the settling of an attempt
that has no connection yet, and the timeout of a discovery unless its connection was asked to end. So a
scan times out at most once, a peripheral is connected to at most once for each time it is taken up, and a
discovery fails at most once for each connect; and a timer that was set before a later scan or attempt
began is passed over.
-/
theorem timers_punctual (config : Config) (moments : List Moment) (driven : Driven config moments) :
    (armed ((Machine.new config).history moments)).Nodup ∧
    (((Machine.new config).run moments).phase = .scanning →
      ∃ scan, ((Machine.new config).run moments).scanner.active = some scan ∧
        InFlight ((Machine.new config).history moments) (.scanTimedOut scan)) ∧
    (∀ attempt peripheral,
      ((Machine.new config).run moments).phase = .connecting attempt peripheral none →
      InFlight ((Machine.new config).history moments) (.connectSettled attempt)) ∧
    (∀ attempt peripheral connection found,
      ((Machine.new config).run moments).phase = .discovering attempt peripheral connection found →
      config.discoveryTimeout ≠ none →
      InFlight ((Machine.new config).history moments) (.discoveryTimedOut attempt) ∨
        AskedToEnd ((Machine.new config).trace moments) connection) ∧
    OncePer Turn.BeginsScan (Turn.Fails .scanTimeout) ((Machine.new config).history moments) ∧
    (∀ peripheral, OncePer (Turn.Takes peripheral) (Turn.Connects peripheral)
      ((Machine.new config).history moments)) ∧
    OncePer (fun turn => ∃ peripheral, turn.Connects peripheral) (Turn.Fails .discoveryIncomplete)
      ((Machine.new config).history moments) ∧
    ∀ earlier setting between turn later timer,
      (Machine.new config).history moments = earlier ++ setting :: between ++ turn :: later →
      setting.step.timer? = some timer → turn.moment.event = .timer timer →
      (∃ begun ∈ between, begun.Outdates) → turn.step = turn.before.stay := by
  have punctual := run_punctual driven
  refine ⟨(run_numbered config moments).distinct, ?_, ?_, ?_, punctual.timeouts, punctual.connects,
    punctual.failures, ?_⟩
  · intro scanning
    obtain ⟨scan, running⟩ := Option.isSome_iff_exists.mp ((run_bracketed config moments).mpr scanning)
    have awaited : ((Machine.new config).run moments).awaited? = some (.scanTimedOut scan) := by
      simp [Machine.awaited?, scanning, running]
    rcases run_awaited driven awaited with flying | ⟨connection, held, -⟩
    · exact ⟨scan, running, flying⟩
    · simp [scanning, Phase.connection?] at held
  · intro attempt peripheral settling
    have awaited : ((Machine.new config).run moments).awaited? = some (.connectSettled attempt) := by
      simp [Machine.awaited?, settling]
    rcases run_awaited driven awaited with flying | ⟨connection, held, -⟩
    · exact flying
    · simp [settling, Phase.connection?] at held
  · intro attempt peripheral connection found discovering limited
    obtain ⟨limit, limit_eq⟩ := Option.ne_none_iff_exists'.mp limited
    have awaited : ((Machine.new config).run moments).awaited? = some (.discoveryTimedOut attempt) := by
      simp [Machine.awaited?, discovering, run_config, limit_eq]
    rcases run_awaited driven awaited with flying | ⟨other, held, asked⟩
    · exact .inl flying
    · rw [discovering] at held
      cases held
      exact .inr asked
  · intro earlier setting between turn later timer split set runsOut outdated
    exact stay_of_outdated split set runsOut outdated

/-- The timer of the first scan runs out during the attempt that the scan led to, and that of the attempt's
discovery during the second scan. -/
def lateTimers : List Moment :=
  [⟨willing 1, .scan⟩, ⟨willing 1, .transport (.discovered ⟨7, robotName⟩)⟩,
    ⟨willing 1, .timer (.scanTimedOut 1)⟩, ⟨willing 1, .timer (.connectSettled 1)⟩,
    ⟨willing 1, .transport (.connected 1 0)⟩, ⟨willing 1, .transport (.disconnected 1 8)⟩,
    ⟨willing 2, .scan⟩, ⟨willing 2, .timer (.discoveryTimedOut 1)⟩,
    ⟨willing 2, .transport (.discovered ⟨7, robotName⟩)⟩, ⟨willing 2, .timer (.connectSettled 2)⟩,
    ⟨willing 2, .transport (.connected 2 0)⟩]

theorem lateTimers_driven : Driven {} lateTimers := by
  intro earlier moment front timer runsOut
  have all : ∀ front ∈ lateTimers.inits, ∀ moment ∈ front.getLast?, ∀ timer ∈ moment.event.timer?,
      InFlight ((Machine.new {}).history front.dropLast) timer := by decide
  simpa using all _ ((List.mem_inits _ _).mpr front) moment (by simp) timer (by simp [runsOut, Event.timer?])

theorem lateTimers_punctual :
    let turns := (Machine.new {}).history lateTimers
    Driven {} lateTimers ∧
      ((Machine.new {}).run lateTimers).phase = .discovering 2 ⟨7, robotName⟩ 2 {} ∧
      (InFlight turns (.discoveryTimedOut 2) ∨ AskedToEnd ((Machine.new {}).trace lateTimers) 2) ∧
      (armed turns).Nodup ∧
      (∃ turn ∈ turns, turn.moment.event = .timer (.scanTimedOut 1) ∧ turn.step = turn.before.stay) ∧
      ∃ turn ∈ turns, turn.moment.event = .timer (.discoveryTimedOut 1) ∧ turn.step = turn.before.stay := by
  intro turns
  have discovering : ((Machine.new {}).run lateTimers).phase = .discovering 2 ⟨7, robotName⟩ 2 {} := by
    decide
  have punctual := timers_punctual {} lateTimers lateTimers_driven
  have passed := punctual.2.2.2.2.2.2.2
  let turn (place : Fin turns.length) : Turn := turns.get place
  have scan : turn ⟨2, by decide⟩ ∈ turns := List.get_mem _ _
  have discovery : turn ⟨7, by decide⟩ ∈ turns := List.get_mem _ _
  refine ⟨lateTimers_driven, discovering, punctual.2.2.2.1 _ _ _ _ discovering (by decide), punctual.1,
    ⟨_, scan, rfl, ?_⟩, ⟨_, discovery, rfl, ?_⟩⟩
  · exact passed [] (turn ⟨0, by decide⟩) [turn ⟨1, by decide⟩] _ (turns.drop 3) _ rfl rfl rfl
      ⟨_, List.mem_singleton_self _, .inr ⟨_, rfl⟩⟩
  · exact passed (turns.take 4) (turn ⟨4, by decide⟩) [turn ⟨5, by decide⟩, turn ⟨6, by decide⟩] _
      (turns.drop 8) _ rfl rfl rfl ⟨turn ⟨6, by decide⟩, by simp, .inl rfl⟩

end SpinnerRemote.Link
