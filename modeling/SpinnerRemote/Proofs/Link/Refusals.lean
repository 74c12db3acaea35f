import SpinnerRemote.Proofs.Link.Release
import SpinnerRemote.Proofs.Link.Teardown
import SpinnerRemote.Proofs.Link.Timers

/-!
Writes that the radio refuses. Of a run of refusals only the first is an error: `first_refusal_is_error`
says when exactly a frame that is to be sent fails, in terms of the writes made since the link became ready.
A refused write leaves the way free, so the next frame is written again.
-/
namespace SpinnerRemote.Link

open Transport (Answers Connection Peripheral)

def Turn.BecomesReady (connection : Connection) (turn : Turn) : Prop :=
  ¬turn.before.ReadyOn connection ∧ turn.step.machine.ReadyOn connection

def Turn.Refuses (connection : Connection) (turn : Turn) : Prop :=
  ∃ characteristic bytes error, .write connection characteristic bytes (.error error) ∈ turn.step.calls

/-- No write was refused since the link became ready on the connection or a write on it was last accepted,
whichever came later. -/
def Unrefused (connection : Connection) : List Turn → Prop :=
  Due (fun turn => turn.BecomesReady connection ∨ turn.Writes connection) (Turn.Refuses connection)

variable {machine : Machine} {answers : Answers} {event : Event} {step : Step} {connection : Connection}
  {turns : List Turn} {turn : Turn}

theorem readyOn_iff :
    machine.ReadyOn connection ↔ ∃ peripheral channels pending rejected,
      machine.phase = .ready peripheral connection channels pending rejected := by
  unfold Machine.ReadyOn Machine.state
  cases machine.phase <;> simp [Phase.state, Phase.connection?]

/-- What one turn does to the mark that a write on the connection was refused. -/
inductive Marking (connection : Connection) (turn : Turn) (marked : Bool) : Prop
  | cleared (unmarked : marked = false)
      (starts : turn.BecomesReady connection ∨ turn.Writes connection)
  | set (mark : marked = true) (refuses : turn.Refuses connection)
      (goesOn : ¬(turn.BecomesReady connection ∨ turn.Writes connection))
  | kept {peripheral : Peripheral} {channels : Channels} {pending : Bool}
      (before : turn.before.phase = .ready peripheral connection channels pending marked)
      (without : ¬turn.Refuses connection)
      (goesOn : ¬(turn.BecomesReady connection ∨ turn.Writes connection))

theorem Turn.goes_on (before : turn.before.ReadyOn connection) (without : ¬turn.Writes connection) :
    ¬(turn.BecomesReady connection ∨ turn.Writes connection) := by
  rintro (⟨unready, -⟩ | writes)
  · exact unready before
  · exact without writes

theorem Outcome.marking (outcome : Outcome machine answers event step)
    (taken : (Turn.mk machine ⟨answers, event⟩).step = step) {peripheral : Peripheral}
    {channels : Channels} {pending marked : Bool}
    (ready : step.machine.phase = .ready peripheral connection channels pending marked) :
    Marking connection ⟨machine, ⟨answers, event⟩⟩ marked := by
  cases outcome with
  | ignored | scanForbidden | scanRefused | disconnectRequested | discoveryExpired | servicesFailed
  | measured =>
    refine .kept ready ?_ (Turn.goes_on (readyOn_iff.mpr ⟨_, _, _, _, ready⟩) ?_)
    · simp [Turn.Refuses, taken, Machine.stay]
    · simp [Turn.Writes, taken, Machine.stay]
  | written before =>
    cases ready
    refine .kept before ?_ (Turn.goes_on (readyOn_iff.mpr ⟨_, _, _, _, before⟩) ?_)
    · simp [Turn.Refuses, taken]
    · simp [Turn.Writes, taken]
  | wrote before accepted =>
    cases ready
    exact .cleared rfl (.inr (by simp [Turn.Writes, taken]))
  | writeRefused before refused =>
    cases ready
    refine .set rfl ?_ (Turn.goes_on (readyOn_iff.mpr ⟨_, _, _, _, before⟩) ?_)
    · simp [Turn.Refuses, taken]
    · simp [Turn.Writes, taken]
  | becameReady discovering =>
    cases ready
    refine .cleared rfl (.inl ⟨?_, ?_⟩)
    · rintro ⟨ready, -⟩
      simp [Machine.state, discovering, Phase.state] at ready
    · rw [taken]
      exact ⟨rfl, rfl⟩
  | _ => cases ready

/-- A link that is ready bears the mark exactly if a write was refused since. -/
theorem run_marked (config : Config) (moments : List Moment) {peripheral : Peripheral}
    {channels : Channels} {pending marked : Bool}
    (ready : ((Machine.new config).run moments).phase =
      .ready peripheral connection channels pending marked) :
    marked = false ↔ Unrefused connection ((Machine.new config).history moments) := by
  induction moments using List.reverseRecOn generalizing peripheral channels pending marked with
  | nil => cases ready
  | append_singleton moments moment ih =>
    rw [Machine.run_snoc] at ready
    rw [Machine.history_snoc, Unrefused, due_snoc_iff]
    have outcome := handle_outcome ((Machine.new config).run moments) moment.answers moment.event
    -- Only where the last turn keeps the mark does the run before it decide.
    cases outcome.marking rfl ready with
    | cleared unmarked starts => exact iff_of_true unmarked (.inl starts)
    | set mark refuses goesOn =>
      refine iff_of_false (by simp [mark]) ?_
      rintro (starts | ⟨-, without⟩)
      · exact goesOn starts
      · exact without refuses
    | kept before without goesOn =>
      rw [ih before, or_iff_right goesOn, and_iff_left without]
      rfl

/-! One frame that is to be sent. -/

variable {frame : Frame}

theorem not_inert_of_send {peripheral : Peripheral} {channels : Channels} {marked : Bool}
    (ready : machine.phase = .ready peripheral connection channels false marked) :
    ¬machine.Inert answers (.send frame) := by
  rintro (unready | pending)
  · simp [Machine.isConnected, ready] at unready
  · simp [Machine.isWritePending, ready] at pending

theorem Outcome.of_send (outcome : Outcome machine answers (.send frame) step) :
    (∃ peripheral connection channels error,
      machine.phase = .ready peripheral connection channels false false ∧
      answers.write connection channels.config frame.encode = .error error ∧
      step.result = .error (.writeRejected error.message)) ∨
    step.result = .ok none ∧ ∀ peripheral connection channels error,
      machine.phase = .ready peripheral connection channels false false →
      answers.write connection channels.config frame.encode ≠ .error error := by
  cases outcome with
  | ignored inert =>
    refine .inr ⟨rfl, ?_⟩
    intro peripheral connection channels error ready
    exact absurd inert (not_inert_of_send ready)
  | wrote before accepted =>
    refine .inr ⟨rfl, ?_⟩
    intro peripheral connection channels error ready refused
    cases before.symm.trans ready
    simp [accepted] at refused
  | @writeRefused _ _ _ _ marked _ before refused =>
    cases marked with
    | false => exact .inl ⟨_, _, _, _, before, refused, rfl⟩
    | true =>
      refine .inr ⟨rfl, ?_⟩
      intro peripheral connection channels error ready
      cases before.symm.trans ready

theorem Outcome.free_of_refused (outcome : Outcome machine answers event step)
    {characteristic : Transport.Characteristic} {bytes : List UInt8} {error : Transport.Error}
    (made : .write connection characteristic bytes (.error error) ∈ step.calls) :
    step.machine.isWritePending = false := by
  cases outcome with
  | writeRefused => rfl
  | _ => simp [Machine.stay] at made

theorem Outcome.still_free (outcome : Outcome machine answers event step) (other : event.sends? = none)
    (free : machine.isWritePending = false) : step.machine.isWritePending = false := by
  cases outcome with
  | ignored | scanForbidden | scanRefused | disconnectRequested | discoveryExpired | servicesFailed
  | measured => exact free
  | wrote | writeRefused => cases other
  | _ => rfl

theorem run_still_free {moments : List Moment} (free : machine.isWritePending = false)
    (none : ∀ moment ∈ moments, moment.event.sends? = none) :
    (machine.run moments).isWritePending = false := by
  induction moments generalizing machine with
  | nil => exact free
  | cons moment rest ih =>
    have outcome := handle_outcome machine moment.answers moment.event
    exact ih (outcome.still_free (none _ List.mem_cons_self) free)
      fun other member => none other (List.mem_cons_of_mem _ member)

theorem calls_of_send {peripheral : Peripheral} {channels : Channels} {pending marked : Bool}
    (ready : machine.phase = .ready peripheral connection channels pending marked)
    (free : machine.isWritePending = false) (answers : Answers) (frame : Frame) :
    (machine.handle answers (.send frame)).calls =
      [.write connection channels.config frame.encode
        (answers.write connection channels.config frame.encode)] := by
  obtain rfl : pending = false := by simpa [Machine.isWritePending, ready] using free
  have outcome := handle_outcome machine answers (.send frame)
  generalize machine.handle answers (.send frame) = step at outcome ⊢
  cases outcome with
  | ignored inert => exact absurd inert (not_inert_of_send ready)
  | wrote before answer | writeRefused before answer =>
    cases before.symm.trans ready
    rw [answer]

/--
A frame that is to be sent fails exactly if the link is ready with no write under way, the radio refuses
the write, and it has refused none since the link became ready on this connection or last accepted one.
Otherwise nothing is reported. After a refused write none is under way, so the next frame that is to be sent
while the link is ready is written.
-/
theorem first_refusal_is_error (config : Config) (moments : List Moment) (answers : Answers)
    (frame : Frame) :
    let machine := (Machine.new config).run moments
    let step := machine.handle answers (.send frame)
    (∀ reason, step.result = .error (.writeRejected reason) ↔
      ∃ peripheral connection channels marked error,
        machine.phase = .ready peripheral connection channels false marked ∧
        answers.write connection channels.config frame.encode = .error error ∧
        reason = error.message ∧ Unrefused connection ((Machine.new config).history moments)) ∧
    ((∀ reason, step.result ≠ .error (.writeRejected reason)) → step.result = .ok none) ∧
    ∀ connection characteristic bytes error,
      .write connection characteristic bytes (.error error) ∈ step.calls →
      step.machine.isWritePending = false ∧
      ∀ between again next peripheral connection channels pending marked,
        (∀ moment ∈ between, moment.event.sends? = none) →
        (step.machine.run between).phase = .ready peripheral connection channels pending marked →
        ((step.machine.run between).handle again (.send next)).calls =
          [.write connection channels.config next.encode
            (again.write connection channels.config next.encode)] := by
  intro machine step
  have outcome : Outcome machine answers (.send frame) step := handle_outcome machine answers (.send frame)
  have fate := outcome.of_send
  refine ⟨?_, ?_, ?_⟩
  · intro reason
    constructor
    · intro fails
      rcases fate with ⟨peripheral, connection, channels, error, ready, refused, result⟩ | ⟨fine, -⟩
      · rw [result] at fails
        cases fails
        exact ⟨_, _, _, _, _, ready, refused, rfl, (run_marked config moments ready).mp rfl⟩
      · rw [fine] at fails
        cases fails
    · rintro ⟨peripheral, connection, channels, marked, error, ready, refused, rfl, unrefused⟩
      obtain rfl : marked = false := (run_marked config moments ready).mpr unrefused
      rcases fate with ⟨_, _, _, _, before, answer, result⟩ | ⟨-, accepts⟩
      · cases ready.symm.trans before
        cases refused.symm.trans answer
        exact result
      · exact absurd refused (accepts _ _ _ _ ready)
  · intro unfailing
    rcases fate with ⟨_, _, _, _, -, -, result⟩ | ⟨fine, -⟩
    · exact absurd result (unfailing _)
    · exact fine
  · intro connection characteristic bytes error refused
    have free := outcome.free_of_refused refused
    refine ⟨free, ?_⟩
    intro between again next peripheral connection channels pending marked none ready
    exact calls_of_send ready (run_still_free free none) again next

def busyRadio : Answers := { willing 1 with write := fun _ _ _ => .error (.refused "busy") }

def streak : List Moment :=
  underWay.take 5 ++
    [⟨busyRadio, .send (idleFrame 10)⟩, ⟨busyRadio, .send (idleFrame 11)⟩,
      ⟨willing 1, .send (idleFrame 12)⟩, ⟨willing 1, .transport (.written 1 configUuid 0)⟩]

/-- The second refusal of a streak is no error, the first one after an accepted write is; the next frame is
then written, although the operator has asked for the end meanwhile. -/
theorem streak_first_refusal :
    let again := ((Machine.new {}).run (streak.take 6)).handle busyRadio (.send (idleFrame 11))
    let later := ((Machine.new {}).run streak).handle busyRadio (.send (idleFrame 13))
    let asked := later.machine.run [⟨busyRadio, .disconnect⟩]
    (again.result = .ok none ∧ ¬Unrefused 1 ((Machine.new {}).history (streak.take 6))) ∧
      later.result = .error (.writeRejected (Transport.Error.refused "busy").message) ∧
      Unrefused 1 ((Machine.new {}).history streak) ∧
      asked.phase = .ready ⟨7, robotName⟩ 1 bothChannels false true ∧
      (asked.handle (willing 1) (.send (idleFrame 10))).calls =
        [.write 1 bothChannels.config (idleFrame 10).encode (.ok ())] := by
  intro again later asked
  have second := (first_refusal_is_error {} (streak.take 6) busyRadio (idleFrame 11)).1
    (Transport.Error.refused "busy").message
  have fresh := first_refusal_is_error {} streak busyRadio (idleFrame 13)
  have fails : later.result = .error (.writeRejected (Transport.Error.refused "busy").message) := rfl
  have ready : asked.phase = .ready ⟨7, robotName⟩ 1 bothChannels false true := by decide
  refine ⟨⟨rfl, ?_⟩, fails, ?_, ready, ?_⟩
  · intro unrefused
    have repeated := second.mpr ⟨⟨7, robotName⟩, 1, bothChannels, true, .refused "busy", by decide, rfl, rfl,
      unrefused⟩
    cases repeated
  · obtain ⟨_, _, _, _, _, before, -, -, unrefused⟩ := (fresh.1 _).mp fails
    cases before
    exact unrefused
  · have refused := fresh.2.2 1 bothChannels.config (idleFrame 13).encode (.refused "busy")
      (List.mem_singleton_self _)
    exact refused.2 _ (willing 1) _ _ _ _ _ _ (by decide) ready

end SpinnerRemote.Link
