import Mathlib.Data.List.Perm.Subperm
import Mathlib.Data.List.Infix
import SpinnerRemote.Proofs.Link.Handles

/-!
One write at a time. The machine has a write under way from the radio's acceptance until the radio's
report that it has ended; `one_write_at_a_time` shows that a held connection never has a second one, over
a radio that reports each write at most once, however late.
-/
namespace SpinnerRemote.Link

open Transport (Answers Call Connection Peripheral)

def acceptedOn? : Call → Option Connection
  | .write connection _ _ (.ok ()) => some connection
  | _ => none

def payload? : Call → Option (List UInt8)
  | .write _ _ bytes (.ok ()) => some bytes
  | _ => none

def isWrite : Call → Bool
  | .write .. => true
  | _ => false

def Event.reports? : Event → Option Connection
  | .transport (.written connection _ _) => some connection
  | _ => none

def Event.sends? : Event → Option Frame
  | .send frame => some frame
  | _ => none

def accepted (calls : List Call) (connection : Connection) : Nat :=
  (calls.filterMap acceptedOn?).count connection

def reported (moments : List Moment) (connection : Connection) : Nat :=
  (moments.filterMap (·.event.reports?)).count connection

def payloads (calls : List Call) : List (List UInt8) := calls.filterMap payload?

def sentFrames (moments : List Moment) : List Frame := moments.filterMap (·.event.sends?)

/--
The radio of a run gives no handle twice, and each of its reports of an ended write is for a write of its
own, accepted on that connection before.
-/
structure Orderly (config : Config) (moments : List Moment) : Prop where
  fresh : (opened ((Machine.new config).trace moments)).Nodup
  answered : ∀ earlier, earlier <+: moments → ∀ connection,
    reported earlier connection ≤ accepted ((Machine.new config).trace earlier) connection

theorem Orderly.init {config : Config} {moments : List Moment} {moment : Moment}
    (orderly : Orderly config (moments ++ [moment])) : Orderly config moments where
  fresh := by
    have whole := orderly.fresh
    rw [Machine.trace_snoc, opened_append] at whole
    exact (List.nodup_append.mp whole).1
  answered earlier front := orderly.answered earlier (front.trans (List.prefix_append _ _))

theorem accepted_append (calls more : List Call) (connection : Connection) :
    accepted (calls ++ more) connection = accepted calls connection + accepted more connection := by
  simp [accepted]

theorem reported_snoc (moments : List Moment) (moment : Moment) (connection : Connection) :
    reported (moments ++ [moment]) connection =
      reported moments connection + moment.event.reports?.toList.count connection := by
  cases given : moment.event.reports? <;> simp [reported, given]

variable {machine : Machine} {answers : Answers} {event : Event} {step : Step}

/-- What one event does to the write of a connection that is held before and after it. -/
inductive Writing (connection : Connection) (machine : Machine) (event : Event) (step : Step) : Prop
  | started (free : machine.isWritePending = false) (busy : step.machine.isWritePending = true)
      (accepts : step.calls.filterMap acceptedOn? = [connection]) (silent : event.reports? = none)
  | finished (report : event.reports? = some connection) (free : step.machine.isWritePending = false)
      (accepts : step.calls.filterMap acceptedOn? = [])
  | kept (same : step.machine.isWritePending = machine.isWritePending)
      (accepts : step.calls.filterMap acceptedOn? = []) (silent : event.reports? ≠ some connection)

theorem not_pending_of_unready (unready : machine.isConnected = false) :
    machine.isWritePending = false := by
  unfold Machine.isConnected at unready
  unfold Machine.isWritePending
  split at unready <;> simp_all

theorem unready_of_ignored_report {connection : Connection} (inert : machine.Inert answers event)
    (report : event.reports? = some connection) (held : machine.phase.connection? = some connection) :
    machine.isConnected = false := by
  unfold Event.reports? at report
  split at report
  next current characteristic status =>
    cases report
    exact inert.resolve_left (not_not.mpr held)
  next => cases report

theorem Outcome.writing {connection : Connection} (outcome : Outcome machine answers event step)
    (held : machine.phase.connection? = some connection)
    (stays : step.machine.phase.connection? = some connection) :
    Writing connection machine event step := by
  cases outcome with
  | wrote ready =>
    obtain rfl : _ = connection := by simpa [ready, Phase.connection?] using held
    exact .started (by simp [Machine.isWritePending, ready]) rfl rfl rfl
  | written ready =>
    obtain rfl : _ = connection := by simpa [ready, Phase.connection?] using held
    exact .finished rfl rfl rfl
  | @ignored event inert =>
    by_cases report : event.reports? = some connection
    · refine .finished report ?_ rfl
      exact not_pending_of_unready (unready_of_ignored_report inert report held)
    · exact .kept rfl rfl report
  | scanStarted | scanStopped | scanExpired | connectForbidden | connectRefused | found | disconnected =>
    cases stays
  | writeRefused ready => exact .kept (by simp [Machine.isWritePending, ready]) rfl (by simp [Event.reports?])
  | connectAccepted phase | connected phase | searchedWithoutTelemetry phase | searched phase
  | becameReady phase => exact .kept (by simp [Machine.isWritePending, phase]) rfl (by simp [Event.reports?])
  | scanForbidden | scanRefused | disconnectRequested | discoveryExpired | servicesFailed | measured =>
    exact .kept rfl rfl (by simp [Event.reports?])

/-- The slot for one write of the connection that is held. -/
structure Slot (calls : List Call) (reports : Connection → Nat) (machine : Machine) : Prop where
  given : ∀ connection, machine.phase.connection? = some connection → connection ∈ opened calls
  unused : ∀ connection, connection ∉ opened calls → accepted calls connection = 0
  balance : ∀ connection, machine.phase.connection? = some connection →
    accepted calls connection = reports connection + machine.isWritePending.toNat

theorem slot_new (config : Config) : Slot [] (fun _ => 0) (Machine.new config) where
  given := by simp [Machine.new, Phase.connection?]
  unused := by simp [accepted]
  balance := by simp [Machine.new, Phase.connection?]

theorem subject?_of_accepted {call : Call} {connection : Connection}
    (on : acceptedOn? call = some connection) : subject? call = some connection := by
  unfold acceptedOn? at on
  split at on
  · exact on
  · cases on

theorem Outcome.accepted_eq_zero {connection : Connection} (outcome : Outcome machine answers event step)
    (other : machine.phase.connection? ≠ some connection) : accepted step.calls connection = 0 := by
  rcases outcome.calls with none | ⟨call, one, subject, _⟩
  · simp [none, accepted]
  · rw [one, accepted, List.count_eq_zero]
    intro member
    obtain ⟨made, same, on⟩ := List.mem_filterMap.mp member
    rw [List.mem_singleton.mp same] at on
    exact other (subject connection (subject?_of_accepted on))

theorem Slot.next {calls : List Call} {reports : Connection → Nat} (slot : Slot calls reports machine)
    (bracketed : machine.Bracketed) (outcome : Outcome machine answers event step)
    (fresh : (opened (calls ++ step.calls)).Nodup)
    (answered : ∀ connection, reports connection + event.reports?.toList.count connection ≤
      accepted (calls ++ step.calls) connection) :
    Slot (calls ++ step.calls)
      (fun connection => reports connection + event.reports?.toList.count connection)
      step.machine := by
  have tenure := outcome.tenure bracketed
  have given : ∀ connection, step.machine.phase.connection? = some connection →
      connection ∈ opened (calls ++ step.calls) := by
    intro connection held
    rw [opened_append, List.mem_append]
    cases tenure with
    | kept same => exact .inl (slot.given connection (same ▸ held))
    | began free begun made =>
      rw [begun] at held
      cases held
      exact .inr (by simp [made, opened, openedBy?])
    | ended before free => simp [free] at held
  have unused : ∀ connection, connection ∉ opened (calls ++ step.calls) →
      accepted (calls ++ step.calls) connection = 0 := by
    intro connection unopened
    have before : connection ∉ opened calls := by
      intro member
      exact unopened (by simp [member])
    rw [accepted_append, slot.unused connection before,
      outcome.accepted_eq_zero (mt (slot.given connection) before)]
  refine ⟨given, unused, ?_⟩
  intro connection held
  have bound := answered connection
  rw [accepted_append] at bound ⊢
  cases tenure with
  | kept same =>
    have before := slot.balance connection (same ▸ held)
    cases outcome.writing (same ▸ held) held with
    | started free busy accepts silent =>
      simp [accepted, accepts, silent, free, busy] at before ⊢
      omega
    | finished report free accepts =>
      -- The radio may only report a write that it accepted, so one was under way.
      have single := Bool.toNat_le machine.isWritePending
      simp [accepted, accepts, report, free] at before bound ⊢
      omega
    | kept pending accepts silent =>
      have quiet : event.reports?.toList.count connection = 0 := by
        simpa [List.count_eq_zero] using silent
      simp [accepted, accepts, quiet, pending] at before ⊢
      exact before
  | began free begun made =>
    rw [begun] at held
    cases held
    have unused : accepted calls connection = 0 :=
      slot.unused connection (unopened_of_fresh (made ▸ fresh))
    have silent : accepted step.calls connection = 0 := by
      rw [made]
      rfl
    have idle : step.machine.isWritePending = false := by rw [Machine.isWritePending, begun]
    rw [idle, Bool.toNat_false]
    omega
  | ended before free => simp [free] at held

theorem run_slot (config : Config) (moments : List Moment) (orderly : Orderly config moments) :
    Slot ((Machine.new config).trace moments) (reported moments) ((Machine.new config).run moments) := by
  induction moments using List.reverseRecOn with
  | nil => exact slot_new config
  | append_singleton moments moment ih =>
    have fresh := orderly.fresh
    have answered := orderly.answered (moments ++ [moment]) (List.prefix_refl _)
    simp only [reported_snoc, Machine.trace_snoc] at fresh answered
    have same : reported (moments ++ [moment]) = fun connection =>
        reported moments connection + moment.event.reports?.toList.count connection :=
      funext (reported_snoc moments moment)
    rw [Machine.run_snoc, Machine.trace_snoc, same]
    exact (ih orderly.init).next (run_bracketed config moments) (handle_outcome _ _ _) fresh answered

theorem Outcome.of_write (outcome : Outcome machine answers event step) {call : Call}
    (made : call ∈ step.calls) (write : isWrite call = true) :
    ∃ frame peripheral connection channels rejected, event = .send frame ∧
      machine.phase = .ready peripheral connection channels false rejected ∧
      call = .write connection channels.config frame.encode
        (answers.write connection channels.config frame.encode) := by
  cases outcome with
  | wrote ready accepted =>
    exact ⟨_, _, _, _, _, rfl, ready, by rw [accepted]; exact List.mem_singleton.mp made⟩
  | writeRefused ready refused =>
    exact ⟨_, _, _, _, _, rfl, ready, by rw [refused]; exact List.mem_singleton.mp made⟩
  | _ => simp_all [isWrite, Machine.stay]

theorem Outcome.payloads (outcome : Outcome machine answers event step) :
    payloads step.calls = [] ∨
      ∃ frame, event = .send frame ∧ payloads step.calls = [frame.encode] := by
  cases outcome with
  | wrote => exact .inr ⟨_, rfl, rfl⟩
  | scanStopped | scanExpired | found =>
    rw [Scanner.stop_calls]
    split <;> exact .inl rfl
  | _ => exact .inl rfl

theorem run_payloads (config : Config) (moments : List Moment) :
    ∃ frames : List Frame, frames.Sublist (sentFrames moments) ∧
      payloads ((Machine.new config).trace moments) = frames.map Frame.encode := by
  induction moments using List.reverseRecOn with
  | nil => exact ⟨[], List.nil_sublist _, rfl⟩
  | append_singleton moments moment ih =>
    obtain ⟨frames, chosen, same⟩ := ih
    have outcome := handle_outcome ((Machine.new config).run moments) moment.answers moment.event
    have more : payloads ((Machine.new config).trace (moments ++ [moment])) =
        frames.map Frame.encode ++
          payloads (Turn.mk ((Machine.new config).run moments) moment).step.calls := by
      rw [Machine.trace_snoc, payloads, List.filterMap_append, ← same]
      rfl
    have sent : sentFrames (moments ++ [moment]) = sentFrames moments ++ moment.event.sends?.toList := by
      cases given : moment.event.sends? <;> simp [sentFrames, given]
    rcases outcome.payloads with none | ⟨frame, send, one⟩
    · refine ⟨frames, ?_, ?_⟩
      · rw [sent]
        exact chosen.trans (List.sublist_append_left _ _)
      · rw [more, Turn.step, none, List.append_nil]
    · refine ⟨frames ++ [frame], ?_, ?_⟩
      · rw [sent, send]
        exact chosen.append_right [frame]
      · rw [more, Turn.step, one, List.map_append]
        rfl

/--
A held connection has at most one write that was accepted and not yet reported as ended, and a write is
then under way for the machine. A write is made only on the event that a frame is to be sent, when the link
is ready and no write is under way: at most one, of this frame, on the config channel of the connection
that is held. So what was written is what some of the sent frames encode to, in their order.
-/
theorem one_write_at_a_time (config : Config) (moments : List Moment) (orderly : Orderly config moments) :
    (∀ connection, ((Machine.new config).run moments).phase.connection? = some connection →
      accepted ((Machine.new config).trace moments) connection ≤ reported moments connection + 1 ∧
        (reported moments connection < accepted ((Machine.new config).trace moments) connection ↔
          ((Machine.new config).run moments).isWritePending = true)) ∧
      (∀ turn ∈ (Machine.new config).history moments,
        (turn.step.calls.filter isWrite).length ≤ 1 ∧
          ∀ call ∈ turn.step.calls, isWrite call = true →
            turn.before.isConnected = true ∧ turn.before.isWritePending = false ∧
              ∃ frame peripheral connection channels rejected, turn.moment.event = .send frame ∧
                turn.before.phase = .ready peripheral connection channels false rejected ∧
                call = .write connection channels.config frame.encode
                  (turn.moment.answers.write connection channels.config frame.encode)) ∧
      ∃ frames : List Frame, frames.Sublist (sentFrames moments) ∧
        payloads ((Machine.new config).trace moments) = frames.map Frame.encode := by
  refine ⟨?_, ?_, run_payloads config moments⟩
  · intro connection held
    have balance := (run_slot config moments orderly).balance connection held
    rw [balance]
    cases ((Machine.new config).run moments).isWritePending <;> simp
  · intro turn _
    have outcome := handle_outcome turn.before turn.moment.answers turn.moment.event
    constructor
    · rcases outcome.calls with none | ⟨call, one, _⟩
      · simp [Turn.step, none]
      · rw [Turn.step, one]
        exact List.length_filter_le _ _
    · intro call made write
      obtain ⟨frame, peripheral, connection, channels, rejected, sent, ready, same⟩ :=
        outcome.of_write made write
      exact ⟨by simp [Machine.isConnected, ready], by simp [Machine.isWritePending, ready], frame,
        peripheral, connection, channels, rejected, sent, ready, same⟩

def robotServices : List Transport.Service :=
  [⟨serviceUuid, [⟨telemetryUuid, 10⟩, ⟨configUuid, 13⟩]⟩]

def idleFrame (heartbeat : UInt8) : Frame := ⟨0, 0, 0, .idle, heartbeat⟩

/-- The first write ends in time, the second only after the robot was lost and found again. -/
def lateReport : List Moment :=
  [⟨willing 1, .scan⟩, ⟨willing 1, .transport (.discovered ⟨7, robotName⟩)⟩,
    ⟨willing 1, .timer (.connectSettled 1)⟩, ⟨willing 1, .transport (.connected 1 0)⟩,
    ⟨willing 1, .transport (.services 1 0 robotServices)⟩, ⟨willing 1, .send (idleFrame 10)⟩,
    ⟨willing 1, .send (idleFrame 11)⟩, ⟨willing 1, .transport (.written 1 configUuid 0)⟩,
    ⟨willing 1, .send (idleFrame 12)⟩, ⟨willing 1, .transport (.disconnected 1 8)⟩,
    ⟨willing 2, .scan⟩, ⟨willing 2, .transport (.discovered ⟨7, robotName⟩)⟩,
    ⟨willing 2, .timer (.connectSettled 2)⟩, ⟨willing 2, .transport (.connected 2 0)⟩,
    ⟨willing 2, .transport (.services 2 0 robotServices)⟩, ⟨willing 2, .send (idleFrame 13)⟩,
    ⟨willing 2, .transport (.written 1 configUuid 0)⟩, ⟨willing 2, .send (idleFrame 10)⟩]

theorem lateReport_orderly : Orderly {} lateReport where
  fresh := by decide
  answered earlier front connection := by
    have below : ∀ earlier ∈ lateReport.inits, (earlier.filterMap (·.event.reports?)).Subperm
        (((Machine.new {}).trace earlier).filterMap acceptedOn?) := by decide
    exact (below earlier ((List.mem_inits _ _).mpr front)).count_le connection

theorem lateReport_one_write :
    Orderly {} lateReport ∧ ((Machine.new {}).run lateReport).phase.connection? = some 2 ∧
      accepted ((Machine.new {}).trace lateReport) 2 ≤ reported lateReport 2 + 1 ∧
      ((Machine.new {}).run lateReport).isWritePending = true ∧
      ∃ turn ∈ (Machine.new {}).history lateReport, turn.moment.event = .send (idleFrame 12) ∧
        (turn.step.calls.filter isWrite).length = 1 ∧
        ∀ call ∈ turn.step.calls, isWrite call = true →
          ∃ connection characteristic answer,
            call = .write connection characteristic (idleFrame 12).encode answer := by
  have held : ((Machine.new {}).run lateReport).phase.connection? = some 2 := by decide
  obtain ⟨single, writes, -⟩ := one_write_at_a_time {} lateReport lateReport_orderly
  let second : Turn := ((Machine.new {}).history lateReport).get ⟨8, by decide⟩
  have met : second ∈ (Machine.new {}).history lateReport := List.get_mem _ _
  have made : 0 < (second.step.calls.filter isWrite).length := by decide
  refine ⟨lateReport_orderly, held, (single 2 held).1, (single 2 held).2.mp (by decide), second, met, rfl,
    Nat.le_antisymm (writes second met).1 made, ?_⟩
  intro call member write
  obtain ⟨-, -, frame, _, _, _, _, sent, -, same⟩ := (writes second met).2 call member write
  cases sent
  exact ⟨_, _, _, same⟩

end SpinnerRemote.Link
