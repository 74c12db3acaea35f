import SpinnerRemote.Proofs.Link.Outcome
import SpinnerRemote.Proofs.Link.Run

/-!
The life of connection handles. A handle begins with the accepted connect that gives it and ends with the
call that closes it; `handles_follow_phase` shows that the handles between the two are exactly what the
machine's phase holds, over a radio that gives no handle twice.
-/
namespace SpinnerRemote.Link

open Transport (Answers Call Connection Peripheral)

def openedBy? : Call → Option Connection
  | .connect _ (.ok connection) => some connection
  | _ => none

def closedBy? : Call → Option Connection
  | .close connection => some connection
  | _ => none

def subject? : Call → Option Connection
  | .discoverServices connection _ => some connection
  | .enableNotification connection _ _ => some connection
  | .write connection _ _ _ => some connection
  | .disconnect connection => some connection
  | .close connection => some connection
  | _ => none

def isConnect : Call → Bool
  | .connect .. => true
  | _ => false

def opened (calls : List Call) : List Connection := calls.filterMap openedBy?

def closed (calls : List Call) : List Connection := calls.filterMap closedBy?

/-- The handles that were given and not yet closed. -/
def openHandles (calls : List Call) : List Connection := (opened calls).filter (· ∉ closed calls)

@[simp] theorem opened_append (calls more : List Call) :
    opened (calls ++ more) = opened calls ++ opened more := List.filterMap_append

@[simp] theorem closed_append (calls more : List Call) :
    closed (calls ++ more) = closed calls ++ closed more := List.filterMap_append

theorem openHandles_append_quiet {calls more : List Call} (opens : opened more = [])
    (closes : closed more = []) : openHandles (calls ++ more) = openHandles calls := by
  simp [openHandles, opens, closes]

theorem openHandles_connect {calls : List Call} {peripheral : Peripheral} {connection : Connection}
    (unclosed : connection ∉ closed calls) :
    openHandles (calls ++ [.connect peripheral (.ok connection)]) = openHandles calls ++ [connection] := by
  simp [openHandles, opened, closed, openedBy?, closedBy?] at unclosed ⊢
  exact unclosed

theorem openHandles_close (calls : List Call) (connection : Connection) :
    openHandles (calls ++ [.close connection]) = (openHandles calls).filter (· ≠ connection) := by
  simp only [openHandles, opened_append, closed_append]
  simp [opened, closed, openedBy?, closedBy?, List.filter_filter, Bool.and_comm]

/-! A scan runs exactly while the phase says so. -/

def Machine.Bracketed (machine : Machine) : Prop :=
  machine.scanner.isScanning = true ↔ machine.phase = .scanning

variable {machine : Machine} {answers : Answers} {event : Event} {step : Step}

theorem Machine.Bracketed.scanning (bracketed : machine.Bracketed) {scan : Nat}
    (running : machine.scanner.active = some scan) : machine.phase = .scanning :=
  bracketed.mp (by simp [Scanner.isScanning, running])

theorem not_scanning_of_held {phase : Phase} {connection : Connection}
    (held : phase.connection? = some connection) : phase ≠ .scanning := by
  rintro rfl
  cases held

theorem Outcome.bracketed (outcome : Outcome machine answers event step)
    (bracketed : machine.Bracketed) : step.machine.Bracketed := by
  unfold Machine.Bracketed at *
  cases outcome with
  | disconnected held => simpa [not_scanning_of_held held] using bracketed
  | _ => simp_all [Machine.stay, Scanner.isScanning]

theorem run_bracketed (config : Config) (moments : List Moment) :
    ((Machine.new config).run moments).Bracketed := by
  induction moments using List.reverseRecOn with
  | nil => simp [Machine.Bracketed, Machine.new, Scanner.isScanning]
  | append_singleton moments moment ih =>
    rw [Machine.run_snoc]
    exact (handle_outcome _ _ _).bracketed ih

/-! The machine keeps what it was set up with. -/

theorem Outcome.config_eq (outcome : Outcome machine answers event step) :
    step.machine.config = machine.config := by
  cases outcome <;> rfl

theorem Outcome.target_eq (outcome : Outcome machine answers event step) :
    step.machine.scanner.target = machine.scanner.target := by
  cases outcome <;> simp [Machine.stay]

theorem run_config (config : Config) (moments : List Moment) :
    ((Machine.new config).run moments).config = config := by
  induction moments using List.reverseRecOn with
  | nil => rfl
  | append_singleton moments moment ih =>
    rw [Machine.run_snoc]
    exact (handle_outcome _ _ _).config_eq.trans ih

theorem run_target (config : Config) (moments : List Moment) :
    ((Machine.new config).run moments).scanner.target = config.deviceName := by
  induction moments using List.reverseRecOn with
  | nil => rfl
  | append_singleton moments moment ih =>
    rw [Machine.run_snoc]
    exact (handle_outcome _ _ _).target_eq.trans ih

/-! One event begins a connection, ends it, or keeps what is held. -/

/-- What one event does to the connection that is held, with the calls it makes. -/
inductive Tenure (before after : Phase) (calls : List Call) : Prop
  | kept (same : after.connection? = before.connection?) (opens : opened calls = [])
      (closes : closed calls = [])
  | began {attempt : Nat} {peripheral : Peripheral} {connection : Connection}
      (free : before.connection? = none)
      (begun : after = .connecting attempt peripheral (some connection))
      (made : calls = [.connect peripheral (.ok connection)])
  | ended {connection : Connection} (held : before.connection? = some connection)
      (free : after.connection? = none) (made : calls = [.close connection])

theorem connection?_of_rest {phase : Phase} (resting : phase.AtRest) : phase.connection? = none := by
  cases phase <;> simp_all [Phase.AtRest, Phase.connection?]

theorem stop_opened (scanner : Scanner) : opened scanner.stop.2 = [] := by
  rw [Scanner.stop_calls]
  split <;> rfl

theorem stop_closed (scanner : Scanner) : closed scanner.stop.2 = [] := by
  rw [Scanner.stop_calls]
  split <;> rfl

theorem Outcome.tenure (outcome : Outcome machine answers event step)
    (bracketed : machine.Bracketed) : Tenure machine.phase step.machine.phase step.calls := by
  cases outcome with
  | connectAccepted settling => exact .began (by rw [settling]; rfl) rfl rfl
  | disconnected held => exact .ended held rfl rfl
  | scanStarted _ _ resting => exact .kept (connection?_of_rest resting).symm rfl rfl
  | scanStopped scanning =>
    exact .kept (by rw [scanning]; rfl) (stop_opened _) (stop_closed _)
  | scanExpired running =>
    have scanning := bracketed.scanning running
    exact .kept (by rw [scanning]; rfl) (stop_opened _) (stop_closed _)
  | found scanning => exact .kept (by rw [scanning]; rfl) (stop_opened _) (stop_closed _)
  | wrote ready | writeRefused ready | written ready => exact .kept (by rw [ready]; rfl) rfl rfl
  | connectForbidden settling | connectRefused settling => exact .kept (by rw [settling]; rfl) rfl rfl
  | connected connecting => exact .kept (by rw [connecting]; rfl) rfl rfl
  | searchedWithoutTelemetry discovering | searched discovering | becameReady discovering =>
    exact .kept (by rw [discovering]; rfl) rfl rfl
  | _ => exact .kept rfl rfl rfl

theorem Outcome.calls (outcome : Outcome machine answers event step) :
    step.calls = [] ∨ ∃ call, step.calls = [call] ∧
      (∀ connection, subject? call = some connection → machine.phase.connection? = some connection) ∧
      (isConnect call = true → machine.phase.connection? = none) := by
  cases outcome with
  | scanStopped | scanExpired | found =>
    rw [Scanner.stop_calls]
    split <;> simp [subject?, isConnect]
  | ignored | scanForbidden | connectForbidden | servicesFailed | searchedWithoutTelemetry | written
  | measured => exact .inl rfl
  | scanRefused | scanStarted => exact .inr ⟨_, rfl, by simp [subject?], by simp [isConnect]⟩
  | disconnectRequested held | disconnected held =>
    exact .inr ⟨_, rfl, by simp [subject?, held], by simp [isConnect]⟩
  | wrote phase | writeRefused phase | discoveryExpired phase | connected phase | searched phase
  | becameReady phase =>
    exact .inr ⟨_, rfl, by simp [subject?, phase, Phase.connection?], by simp [isConnect]⟩
  | connectAccepted phase | connectRefused phase =>
    exact .inr ⟨_, rfl, by simp [subject?], by simp [phase, Phase.connection?]⟩

theorem Outcome.closes (outcome : Outcome machine answers event step) {connection : Connection}
    (made : .close connection ∈ step.calls) :
    ∃ status, event = .transport (.disconnected connection status) := by
  cases outcome with
  | disconnected held =>
    cases List.mem_singleton.mp made
    exact ⟨_, rfl⟩
  | _ => simp [Machine.stay] at made

/-! The books of a run: its calls against what its machine holds. -/

/-- A call comes in its order: on the one open handle, or when none is open if it asks for one. -/
def InOrder (earlier : List Call) (call : Call) : Prop :=
  (∀ connection, subject? call = some connection → openHandles earlier = [connection]) ∧
    (isConnect call = true → openHandles earlier = [])

structure Ledger (calls : List Call) (machine : Machine) : Prop where
  held : openHandles calls = machine.phase.connection?.toList
  closed_opened : closed calls ⊆ opened calls
  closed_once : (closed calls).Nodup
  ordered : ∀ earlier call later, calls = earlier ++ call :: later → InOrder earlier call

theorem ledger_new (config : Config) : Ledger [] (Machine.new config) where
  held := rfl
  closed_opened := by simp [closed]
  closed_once := List.nodup_nil
  ordered := by simp

theorem Ledger.ordered_next {calls : List Call} (ledger : Ledger calls machine)
    (outcome : Outcome machine answers event step) (earlier : List Call) (call : Call)
    (later : List Call) (split : calls ++ step.calls = earlier ++ call :: later) :
    InOrder earlier call := by
  rcases outcome.calls with none | ⟨made, one, subject, connect⟩
  · rw [none, List.append_nil] at split
    exact ledger.ordered earlier call later split
  · rw [one] at split
    refine forall_split_snoc ledger.ordered ⟨?_, ?_⟩ earlier call later split
    · intro connection same
      rw [ledger.held, subject connection same, Option.toList_some]
    · intro asks
      rw [ledger.held, connect asks, Option.toList_none]

theorem unopened_of_fresh {calls : List Call} {peripheral : Peripheral} {connection : Connection}
    (fresh : (opened (calls ++ [.connect peripheral (.ok connection)])).Nodup) :
    connection ∉ opened calls := by
  have apart := (List.nodup_append.mp (opened_append calls _ ▸ fresh)).2.2
  intro member
  exact apart connection member connection (by simp [opened, openedBy?]) rfl

theorem Ledger.next {calls : List Call} (ledger : Ledger calls machine)
    (bracketed : machine.Bracketed) (outcome : Outcome machine answers event step)
    (fresh : (opened (calls ++ step.calls)).Nodup) : Ledger (calls ++ step.calls) step.machine := by
  have ordered := ledger.ordered_next outcome
  cases outcome.tenure bracketed with
  | kept same opens closes =>
    refine ⟨?_, ?_, ?_, ordered⟩
    · rw [openHandles_append_quiet opens closes, ledger.held, same]
    · simpa [opens, closes] using ledger.closed_opened
    · simpa [closes] using ledger.closed_once
  | @began _ peripheral connection free begun made =>
    rw [made] at fresh ordered ⊢
    have unclosed : connection ∉ closed calls :=
      fun member => unopened_of_fresh fresh (ledger.closed_opened member)
    have closes : closed [.connect peripheral (.ok connection)] = [] := rfl
    refine ⟨?_, ?_, ?_, ordered⟩
    · rw [openHandles_connect unclosed, ledger.held, free, begun]
      rfl
    · rw [closed_append, closes, List.append_nil, opened_append]
      exact List.subset_append_of_subset_left _ ledger.closed_opened
    · simpa [closes] using ledger.closed_once
  | @ended connection held free made =>
    rw [made] at ordered ⊢
    have isOpen : connection ∈ openHandles calls := by simp [ledger.held, held]
    obtain ⟨given, unclosed⟩ : connection ∈ opened calls ∧ connection ∉ closed calls := by
      simpa [openHandles] using isOpen
    have closes : closed [.close connection] = [connection] := rfl
    refine ⟨?_, ?_, ?_, ordered⟩
    · rw [openHandles_close, ledger.held, held, free]
      simp
    · rw [closed_append, closes, opened_append]
      exact List.append_subset.mpr ⟨List.subset_append_of_subset_left _ ledger.closed_opened,
        by simpa using .inl given⟩
    · rw [closed_append, closes]
      exact List.nodup_append.mpr ⟨ledger.closed_once, by simp,
        fun other member final last => by
          rw [List.mem_singleton.mp last]
          rintro rfl
          exact unclosed member⟩

theorem run_ledger (config : Config) (moments : List Moment)
    (fresh : (opened ((Machine.new config).trace moments)).Nodup) :
    Ledger ((Machine.new config).trace moments) ((Machine.new config).run moments) := by
  induction moments using List.reverseRecOn with
  | nil => exact ledger_new config
  | append_singleton moments moment ih =>
    rw [Machine.trace_snoc] at fresh ⊢
    rw [Machine.run_snoc]
    have earlier := ih (by simpa using (List.nodup_append.mp (opened_append _ _ ▸ fresh)).1)
    exact earlier.next (run_bracketed config moments) (handle_outcome _ _ _) fresh

/--
The handles that a run was given and has not closed are the one that the phase holds, or none. A handle is
closed at most once, and only by the report that its connection is gone. A call is made on no other handle
than the open one, and a connection is asked for only when none is open.
-/
theorem handles_follow_phase (config : Config) (moments : List Moment)
    (fresh : (opened ((Machine.new config).trace moments)).Nodup) :
    openHandles ((Machine.new config).trace moments) =
        ((Machine.new config).run moments).phase.connection?.toList ∧
      (closed ((Machine.new config).trace moments)).Nodup ∧
      (∀ turn ∈ (Machine.new config).history moments, ∀ connection,
        .close connection ∈ turn.step.calls →
          ∃ status, turn.moment.event = .transport (.disconnected connection status)) ∧
      ∀ earlier call later, (Machine.new config).trace moments = earlier ++ call :: later →
        (∀ connection, subject? call = some connection → openHandles earlier = [connection]) ∧
          (isConnect call = true → openHandles earlier = []) := by
  have ledger := run_ledger config moments fresh
  refine ⟨ledger.held, ledger.closed_once, ?_, ledger.ordered⟩
  intro turn _ connection made
  exact (handle_outcome turn.before turn.moment.answers turn.moment.event).closes made

def reconnecting : List Moment :=
  [⟨willing 1, .scan⟩, ⟨willing 1, .transport (.discovered ⟨7, robotName⟩)⟩,
    ⟨willing 1, .timer (.connectSettled 1)⟩, ⟨willing 1, .transport (.connected 1 0)⟩,
    ⟨willing 1, .transport (.disconnected 1 8)⟩, ⟨willing 2, .scan⟩,
    ⟨willing 2, .transport (.discovered ⟨7, robotName⟩)⟩, ⟨willing 2, .timer (.connectSettled 2)⟩,
    ⟨willing 2, .disconnect⟩]

theorem reconnecting_follows_phase :
    (opened ((Machine.new {}).trace reconnecting)).Nodup ∧
      openHandles ((Machine.new {}).trace reconnecting) = [2] ∧
      (closed ((Machine.new {}).trace reconnecting)).Nodup := by
  have fresh : (opened ((Machine.new {}).trace reconnecting)).Nodup := by decide
  have follows := handles_follow_phase {} reconnecting fresh
  exact ⟨fresh, follows.1.trans (by decide), follows.2.1⟩

end SpinnerRemote.Link
