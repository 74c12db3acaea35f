import SpinnerRemote.Proofs.Link.Readiness
import SpinnerRemote.Proofs.Link.Timers

/-!
What the machine remembers of asking for the end of its connection: that it has, until the connection has
ended. It makes no more of that than to tell an end from a loss. A machine that has asked handles every
event as one that has not, and only what is logged of the end may differ.
-/
namespace SpinnerRemote.Link

open Transport (Answers Call Connection Peripheral Service)

def Machine.ReadyOn (machine : Machine) (connection : Connection) : Prop :=
  machine.state = .ready ∧ machine.phase.connection? = some connection

instance (machine : Machine) (connection : Connection) : Decidable (machine.ReadyOn connection) :=
  inferInstanceAs (Decidable (_ ∧ _))

def Turn.AsksToEnd (connection : Connection) (turn : Turn) : Prop :=
  .disconnect connection ∈ turn.step.calls

def Machine.asked (machine : Machine) : Machine := { machine with endAsked := true }

def Step.asked (step : Step) : Step := { step with machine := step.machine.asked }

/-- The other machine is the same, or the same after asking for the end of its connection. -/
def Machine.MayHaveAsked (machine other : Machine) : Prop := other = machine ∨ other = machine.asked

/-- The other step is the same of a machine that may have asked; it may take for an end what was a loss. -/
structure Step.Alike (step other : Step) : Prop where
  machine : step.machine.MayHaveAsked other.machine
  calls : other.calls = step.calls
  events : other.events = step.events
  result : other.result = step.result
  notices : other.notices = step.notices ∨
    ∃ status, step.notices = [.lost status] ∧ other.notices = [.ended status]

structure Turn.Alike (turn other : Turn) : Prop where
  before : turn.before.MayHaveAsked other.before
  moment : other.moment = turn.moment
  step : turn.step.Alike other.step

variable {config : Config} {machine : Machine} {answers : Answers} {event : Event} {step : Step}
  {calls : List Call} {connection : Connection}

/-! One event, handled by a machine that has asked. -/

theorem Step.Alike.refl (step : Step) : step.Alike step := ⟨.inl rfl, rfl, rfl, rfl, .inl rfl⟩

theorem Step.alike_of_asked {other : Step} (same : other = step.asked) : step.Alike other := by
  rw [same]
  exact ⟨.inr rfl, rfl, rfl, rfl, .inl rfl⟩

theorem scan_asked : machine.asked.scan answers = (machine.scan answers).asked := by
  unfold Machine.scan Machine.asked
  dsimp only
  split
  next => rfl
  next =>
    split
    next => rfl
    next =>
      split
      next => split <;> rfl
      next => split <;> rfl
      next => rfl

theorem disconnect_asked : machine.asked.disconnect = machine.disconnect.asked := by
  unfold Machine.disconnect Machine.asked
  dsimp only
  split
  next => rfl
  next => split <;> rfl

theorem send_asked (frame : Frame) :
    machine.asked.send answers frame = (machine.send answers frame).asked := by
  unfold Machine.send Machine.asked
  dsimp only
  split
  next => split <;> rfl
  next => rfl

theorem scanTimedOut_asked (scan : Nat) :
    machine.asked.scanTimedOut scan = (machine.scanTimedOut scan).asked := by
  unfold Machine.scanTimedOut Machine.asked
  dsimp only
  split <;> rfl

theorem connectSettled_asked (attempt : Nat) :
    machine.asked.connectSettled answers attempt = (machine.connectSettled answers attempt).asked := by
  unfold Machine.connectSettled Machine.asked
  dsimp only
  split
  next =>
    split
    next => rfl
    next =>
      split
      next => rfl
      next => split <;> rfl
  next => rfl

theorem discoveryTimedOut_asked (attempt : Nat) :
    machine.asked.discoveryTimedOut attempt = (machine.discoveryTimedOut attempt).asked := by
  unfold Machine.discoveryTimedOut Machine.asked
  dsimp only
  split
  next => split <;> rfl
  next => rfl

theorem discovered_asked (peripheral : Peripheral) :
    machine.asked.onDiscovered peripheral = (machine.onDiscovered peripheral).asked := by
  unfold Machine.onDiscovered Machine.asked
  dsimp only
  split <;> rfl

theorem connected_asked :
    machine.asked.onConnected answers connection = (machine.onConnected answers connection).asked := by
  unfold Machine.onConnected Machine.asked
  dsimp only
  split <;> rfl

theorem services_asked (status : Int) (services : List Service) :
    machine.asked.onServices answers status services =
      (machine.onServices answers status services).asked := by
  unfold Machine.onServices Machine.asked
  dsimp only
  split
  next =>
    split
    next => rfl
    next =>
      split
      next => rfl
      next => split <;> rfl
  next => rfl

theorem written_asked : machine.asked.onWritten = machine.onWritten.asked := by
  unfold Machine.onWritten Machine.asked
  dsimp only
  split <;> rfl

theorem notification_asked (characteristic : Uuid) (bytes : List UInt8) :
    machine.asked.onNotification characteristic bytes =
      (machine.onNotification characteristic bytes).asked := by
  unfold Machine.onNotification Machine.channels? Machine.asked
  dsimp only
  split
  next =>
    split
    next => split <;> rfl
    next => rfl
  next => rfl

/-- The end of the connection is the only event whose handling looks at what was asked. -/
theorem disconnected_asked (status : Int) :
    (machine.onDisconnected connection status).Alike (machine.asked.onDisconnected connection status) := by
  have expected : (machine.asked.onDisconnected connection status).notices = [.ended status] := by
    simp [Machine.onDisconnected, Machine.asked]
  refine ⟨.inl rfl, rfl, rfl, rfl, ?_⟩
  rw [expected]
  unfold Machine.onDisconnected
  split
  next => exact .inr ⟨status, rfl, rfl⟩
  next => exact .inl rfl

theorem transport_asked (event : Transport.Event) :
    (machine.onTransport answers event).Alike (machine.asked.onTransport answers event) := by
  have concerns : machine.asked.concerns event = machine.concerns event := rfl
  unfold Machine.onTransport
  rw [concerns]
  split
  next =>
    cases event with
    | discovered peripheral => exact Step.alike_of_asked (discovered_asked peripheral)
    | connected connection status => exact Step.alike_of_asked connected_asked
    | disconnected connection status => exact disconnected_asked status
    | services connection status services => exact Step.alike_of_asked (services_asked status services)
    | written connection characteristic status => exact Step.alike_of_asked written_asked
    | notification connection characteristic bytes =>
      exact Step.alike_of_asked (notification_asked characteristic bytes)
  next => exact Step.alike_of_asked rfl

theorem handle_asked (answers : Answers) (event : Event) :
    (machine.handle answers event).Alike (machine.asked.handle answers event) := by
  cases event with
  | scan => exact Step.alike_of_asked scan_asked
  | disconnect => exact Step.alike_of_asked disconnect_asked
  | send frame => exact Step.alike_of_asked (send_asked frame)
  | timer event =>
    cases event with
    | scanTimedOut scan => exact Step.alike_of_asked (scanTimedOut_asked scan)
    | connectSettled attempt => exact Step.alike_of_asked (connectSettled_asked attempt)
    | discoveryTimedOut attempt => exact Step.alike_of_asked (discoveryTimedOut_asked attempt)
  | transport event => exact transport_asked event

theorem Machine.MayHaveAsked.alike {other : Machine} (before : machine.MayHaveAsked other) (moment : Moment) :
    (Turn.mk machine moment).Alike ⟨other, moment⟩ := by
  rcases before with rfl | rfl
  · exact ⟨.inl rfl, rfl, .refl _⟩
  · exact ⟨.inr rfl, rfl, handle_asked moment.answers moment.event⟩

/-- A run of a machine that may have asked goes on as that of the machine that has not. -/
theorem Machine.MayHaveAsked.run {other : Machine} (before : machine.MayHaveAsked other)
    (moments : List Moment) :
    (machine.history moments).Forall₂ Turn.Alike (other.history moments) ∧
      (machine.run moments).MayHaveAsked (other.run moments) := by
  induction moments generalizing machine other with
  | nil => exact ⟨.nil, before⟩
  | cons moment rest ih =>
    have first := before.alike moment
    obtain ⟨turns, after⟩ := ih first.step.machine
    exact ⟨.cons first turns, after⟩

/-! What is remembered. -/

theorem Outcome.asked_of_asks (outcome : Outcome machine answers event step)
    (asks : .disconnect connection ∈ step.calls) :
    step.machine = machine.asked ∧ machine.phase.connection? = some connection := by
  cases outcome with
  | disconnectRequested held =>
    cases List.mem_singleton.mp asks
    exact ⟨rfl, held⟩
  | discoveryExpired discovering =>
    cases List.mem_singleton.mp asks
    exact ⟨rfl, by rw [discovering]; rfl⟩
  | _ => simp [Machine.stay] at asks

theorem Turn.AsksToEnd.asked {turn : Turn} (asks : turn.AsksToEnd connection) :
    turn.step.machine = turn.before.asked ∧ turn.before.phase.connection? = some connection :=
  (handle_outcome turn.before turn.moment.answers turn.moment.event).asked_of_asks asks

theorem Outcome.endAsked_iff (outcome : Outcome machine answers event step) :
    step.machine.endAsked = true ↔ (∃ connection, .disconnect connection ∈ step.calls) ∨
      machine.endAsked = true ∧ ∀ connection, .close connection ∉ step.calls := by
  cases outcome <;> simp [Machine.stay]

theorem askedToEnd_iff :
    AskedToEnd calls connection ↔ ∃ earlier asking later, calls = earlier ++ asking :: later ∧
      asking = .disconnect connection ∧ ∀ call ∈ later, isConnect call = false := by
  constructor
  · rintro ⟨earlier, later, split, none⟩
    exact ⟨earlier, _, later, split, rfl, none⟩
  · rintro ⟨earlier, _, later, split, rfl, none⟩
    exact ⟨earlier, later, split, none⟩

theorem askedToEnd_concat {call : Call} :
    AskedToEnd (calls ++ [call]) connection ↔
      call = .disconnect connection ∨ AskedToEnd calls connection ∧ isConnect call = false := by
  rw [askedToEnd_iff, askedToEnd_iff]
  exact exists_split_snoc_iff

/-- What is remembered is that a connection is held which was asked to end. -/
def Machine.Remembers (calls : List Call) (machine : Machine) : Prop :=
  machine.endAsked = true ↔
    ∃ connection, machine.phase.connection? = some connection ∧ AskedToEnd calls connection

theorem Outcome.remembers (outcome : Outcome machine answers event step) (bracketed : machine.Bracketed)
    (remembers : machine.Remembers calls) : step.machine.Remembers (calls ++ step.calls) := by
  unfold Machine.Remembers at *
  cases outcome.tenure bracketed with
  | kept same opens closes =>
    -- Nothing is closed, so what is remembered can only become true, by the one call of this event.
    have unclosed : ∀ connection, .close connection ∉ step.calls := by
      intro connection made
      have closed : connection ∈ closed step.calls := List.mem_filterMap.mpr ⟨_, made, rfl⟩
      simp [closes] at closed
    rcases outcome.calls with none | ⟨call, one, subject, connects⟩
    · rw [outcome.endAsked_iff, none, List.append_nil, same, ← remembers]
      simp
    · rw [one] at unclosed
      rw [outcome.endAsked_iff, same, one]
      simp only [askedToEnd_concat]
      constructor
      · rintro (⟨connection, asks⟩ | ⟨flag, -⟩)
        · have last := List.mem_singleton.mp asks
          exact ⟨connection, subject connection (by rw [← last]; rfl), .inl last.symm⟩
        · obtain ⟨connection, held, asked⟩ := remembers.mp flag
          refine ⟨connection, held, .inr ⟨asked, Bool.eq_false_iff.mpr ?_⟩⟩
          intro connect
          cases held.symm.trans (connects connect)
      · rintro ⟨connection, held, rfl | ⟨asked, -⟩⟩
        · exact .inl ⟨connection, List.mem_singleton_self _⟩
        · exact .inr ⟨remembers.mpr ⟨connection, held, asked⟩, unclosed⟩
  | began free begun made =>
    have unasked : ¬machine.endAsked = true := by simp [remembers, free]
    rw [outcome.endAsked_iff, made]
    simp [unasked, askedToEnd_concat, isConnect]
  | ended held free made =>
    rw [outcome.endAsked_iff, made, free]
    simp

theorem run_remembers (config : Config) (moments : List Moment) :
    ((Machine.new config).run moments).Remembers ((Machine.new config).trace moments) := by
  induction moments using List.reverseRecOn with
  | nil => simp [Machine.Remembers, Machine.new, Phase.connection?]
  | append_singleton moments moment ih =>
    rw [Machine.run_snoc, Machine.trace_snoc]
    exact (handle_outcome _ moment.answers moment.event).remembers (run_bracketed config moments) ih

def Machine.HasAsked (machine : Machine) (connection : Connection) : Prop :=
  machine.endAsked = true ∧ machine.phase.connection? = some connection

theorem Outcome.hasAsked (outcome : Outcome machine answers event step) (bracketed : machine.Bracketed)
    (asked : machine.HasAsked connection)
    (unbroken : ∀ status, event ≠ .transport (.disconnected connection status)) :
    step.machine.HasAsked connection := by
  obtain ⟨flag, held⟩ := asked
  have unclosed : ∀ other, .close other ∉ step.calls := by
    intro other made
    obtain ⟨status, rfl⟩ := outcome.closes made
    cases outcome with
    | ignored => cases made
    | disconnected current =>
      cases held.symm.trans current
      exact unbroken status rfl
  refine ⟨outcome.endAsked_iff.mpr (.inr ⟨flag, unclosed⟩), ?_⟩
  cases outcome.tenure bracketed with
  | kept same => exact same.trans held
  | began free => cases free.symm.trans held
  | ended before free made => exact absurd (made ▸ List.mem_singleton_self _) (unclosed _)

theorem Machine.HasAsked.run {moments : List Moment} (asked : machine.HasAsked connection)
    (bracketed : machine.Bracketed)
    (unbroken : ∀ turn ∈ machine.history moments, ¬turn.Parts connection) :
    (machine.run moments).HasAsked connection := by
  induction moments generalizing machine with
  | nil => exact asked
  | cons moment rest ih =>
    obtain ⟨whole, still⟩ := List.forall_mem_cons.mp unbroken
    have outcome := handle_outcome machine moment.answers moment.event
    have next := outcome.hasAsked bracketed asked fun status report => whole ⟨status, report⟩
    exact ih next (outcome.bracketed bracketed) still

theorem Outcome.notices_of_asked {status : Int}
    (outcome : Outcome machine answers (.transport (.disconnected connection status)) step)
    (asked : machine.HasAsked connection) : step.notices = [.ended status] := by
  obtain ⟨flag, held⟩ := asked
  cases outcome with
  | ignored inert => exact absurd held inert
  | disconnected => simp [flag]

theorem Outcome.lost_iff {status : Int} (outcome : Outcome machine answers event step) :
    .lost status ∈ step.notices ↔ machine.endAsked = false ∧
      ∃ connection, machine.ReadyOn connection ∧
        event = .transport (.disconnected connection status) := by
  cases outcome with
  | ignored inert =>
    refine iff_of_false List.not_mem_nil ?_
    rintro ⟨-, connection, ready, rfl⟩
    exact inert ready.2
  | @disconnected connection other held =>
    have ready : machine.ReadyOn connection ↔ machine.isConnected = true := by
      simp [Machine.ReadyOn, held, isConnected_iff_state]
    rw [List.mem_singleton]
    split
    next loss =>
      rw [Bool.and_eq_true, Bool.not_eq_true'] at loss
      constructor
      · intro same
        cases same
        exact ⟨loss.2, connection, ready.mpr loss.1, rfl⟩
      · rintro ⟨-, _, -, report⟩
        cases report
        rfl
    next noLoss =>
      refine iff_of_false (by simp) ?_
      rintro ⟨unasked, _, connected, report⟩
      cases report
      exact noLoss (by simp [unasked, ready.mp connected])
  | connected => cases answers.discoverServices _ <;> simp
  | @searched _ _ _ _ _ _ enabled => cases enabled <;> simp
  | _ => simp [Scanner.stopNotices]

/-- A loss is logged exactly when a ready connection has ended that was not asked to end. -/
theorem loss_iff_unasked (config : Config) (moments : List Moment) (answers : Answers) (event : Event)
    (status : Int) :
    let machine := (Machine.new config).run moments
    .lost status ∈ (machine.handle answers event).notices ↔
      ∃ connection, machine.ReadyOn connection ∧
        event = .transport (.disconnected connection status) ∧
        ¬AskedToEnd ((Machine.new config).trace moments) connection := by
  intro machine
  have remembers := run_remembers config moments
  unfold Machine.Remembers at remembers
  rw [(handle_outcome machine answers event).lost_iff, Bool.eq_false_iff, Ne, remembers]
  constructor
  · rintro ⟨unasked, connection, ready, report⟩
    exact ⟨connection, ready, report, fun asked => unasked ⟨connection, ready.2, asked⟩⟩
  · rintro ⟨connection, ready, report, unasked⟩
    refine ⟨?_, connection, ready, report⟩
    rintro ⟨other, held, asked⟩
    cases held.symm.trans ready.2
    exact unasked asked

end SpinnerRemote.Link
