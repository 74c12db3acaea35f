import SpinnerRemote.Proofs.Link.Lifecycle
import SpinnerRemote.Station

/-!
The scan in the calls of a run. `scans_bracketed` shows that the radio scans exactly while the link says
so: starts that were accepted and stops take turns, no connection is asked for in between, and the end of
the service stops a scan that is still running.
-/
namespace SpinnerRemote.Link

open Transport (Answers Call Connection)

inductive ScanMark where
  | started
  | stopped
  deriving DecidableEq, Repr

/-- A start of a scan counts only if the radio accepted it. -/
def scanMark? : Call → Option ScanMark
  | .startScan _ (.ok ()) => some .started
  | .stopScan => some .stopped
  | _ => none

def scanMarks (calls : List Call) : List ScanMark := calls.filterMap scanMark?

def lastMark (calls : List Call) : ScanMark := (scanMarks calls).getLastD .stopped

def Phase.mark : Phase → ScanMark
  | .scanning => .started
  | _ => .stopped

theorem scanMarks_append (calls more : List Call) :
    scanMarks (calls ++ more) = scanMarks calls ++ scanMarks more := List.filterMap_append

theorem scanMarks_stop (scanner : Scanner) :
    scanMarks scanner.stop.2 = if scanner.isScanning then [.stopped] else [] := by
  rw [Scanner.stop_calls]
  split <;> rfl

theorem mark_eq_started {phase : Phase} : phase.mark = .started ↔ phase = .scanning := by
  cases phase <;> simp [Phase.mark]

theorem mark_of_not_scanning {phase : Phase} (elsewhere : phase ≠ .scanning) : phase.mark = .stopped := by
  cases phase with
  | scanning => exact absurd rfl elsewhere
  | _ => rfl

/-! Marks that take turns, the first of them a start. -/

theorem alternating_snoc {marks : List ScanMark} {mark : ScanMark} :
    (.stopped :: (marks ++ [mark])).IsChain (· ≠ ·) ↔
      (.stopped :: marks).IsChain (· ≠ ·) ∧ marks.getLastD .stopped ≠ mark := by
  rw [← List.cons_append, List.isChain_append, List.getLast?_cons]
  simp [List.getLastD_eq_getLast?]

theorem count_of_alternating {marks : List ScanMark} (chain : (.stopped :: marks).IsChain (· ≠ ·)) :
    marks.count .started =
      marks.count .stopped + if marks.getLastD .stopped = .started then 1 else 0 := by
  induction marks using List.reverseRecOn with
  | nil => rfl
  | append_singleton marks mark ih =>
    obtain ⟨before, turned⟩ := alternating_snoc.mp chain
    rw [List.count_append, List.count_append, ih before, List.getLastD_concat]
    cases mark with
    | started =>
      rw [if_neg turned]
      rfl
    | stopped =>
      have last : marks.getLastD .stopped = .started := by
        cases same : marks.getLastD .stopped with
        | started => rfl
        | stopped => exact absurd same turned
      rw [if_pos last]
      rfl

/-! What one event does to the scan. -/

/-- The scan is started or stopped by an event, or left as it is. -/
inductive Sweep (before after : Phase) (calls : List Call) : Prop
  | turned (marks : scanMarks calls = [after.mark]) (differs : before.mark ≠ after.mark)
  | kept (marks : scanMarks calls = []) (same : after.mark = before.mark)

variable {machine : Machine} {answers : Answers} {event : Event} {step : Step}

theorem not_scanning_of_rest {phase : Phase} (resting : phase.AtRest) : phase ≠ .scanning := by
  rintro rfl
  exact resting

theorem Outcome.sweep (outcome : Outcome machine answers event step) (bracketed : machine.Bracketed) :
    Sweep machine.phase step.machine.phase step.calls := by
  have stops (scanning : machine.phase = .scanning) : scanMarks machine.scanner.stop.2 = [.stopped] := by
    rw [scanMarks_stop, if_pos (bracketed.mpr scanning)]
  cases outcome with
  | scanStarted _ _ resting =>
    have rested := mark_of_not_scanning (not_scanning_of_rest resting)
    exact .turned rfl (by rw [rested]; simp [Phase.mark])
  | scanStopped scanning | found scanning =>
    exact .turned (stops scanning) (by simp [scanning, Phase.mark])
  | scanExpired running =>
    have scanning := bracketed.scanning running
    exact .turned (stops scanning) (by simp [scanning, Phase.mark])
  | disconnected held =>
    exact .kept rfl (mark_of_not_scanning (not_scanning_of_held held)).symm
  | wrote phase | writeRefused phase | written phase | connectForbidden phase | connectAccepted phase
  | connectRefused phase | connected phase | searchedWithoutTelemetry phase | searched phase
  | becameReady phase =>
    exact .kept rfl (by simp [phase, Phase.mark])
  | _ => exact .kept rfl rfl

theorem Outcome.of_isConnect (outcome : Outcome machine answers event step) {call : Call}
    (made : call ∈ step.calls) (asks : isConnect call = true) : machine.phase ≠ .scanning := by
  cases outcome with
  | connectAccepted settling | connectRefused settling => simp [settling]
  | scanStopped | scanExpired | found =>
    obtain ⟨-, rfl⟩ := (Scanner.mem_stop_calls _ _).mp made
    cases asks
  | ignored | scanForbidden | connectForbidden | servicesFailed | searchedWithoutTelemetry | written
  | measured => cases made
  | _ =>
    cases List.mem_singleton.mp made
    cases asks

/-! The books of the scan: what the radio was told of it against the phase of the machine. -/

structure ScanBooks (calls : List Call) (phase : Phase) : Prop where
  alternating : (.stopped :: scanMarks calls).IsChain (· ≠ ·)
  last : lastMark calls = phase.mark
  quiet : ∀ earlier call later, calls = earlier ++ call :: later → isConnect call = true →
    lastMark earlier = .stopped

theorem scanBooks_new : ScanBooks [] .idle where
  alternating := List.isChain_singleton _
  last := rfl
  quiet := by simp

variable {calls : List Call}

theorem ScanBooks.append (books : ScanBooks calls machine.phase) {more : List Call} {after : Phase}
    (sweep : Sweep machine.phase after more)
    (quiet : ∀ earlier call later, calls ++ more = earlier ++ call :: later → isConnect call = true →
      lastMark earlier = .stopped) : ScanBooks (calls ++ more) after := by
  cases sweep with
  | turned marks differs =>
    refine ⟨?_, ?_, quiet⟩
    · rw [scanMarks_append, marks, alternating_snoc]
      exact ⟨books.alternating, books.last.trans_ne differs⟩
    · rw [lastMark, scanMarks_append, marks, List.getLastD_concat]
  | kept marks same =>
    have told : scanMarks (calls ++ more) = scanMarks calls := by simp [scanMarks_append, marks]
    refine ⟨?_, ?_, quiet⟩
    · rw [told]
      exact books.alternating
    · rw [lastMark, told, same]
      exact books.last

theorem ScanBooks.next (books : ScanBooks calls machine.phase) (bracketed : machine.Bracketed)
    (outcome : Outcome machine answers event step) :
    ScanBooks (calls ++ step.calls) step.machine.phase := by
  refine books.append (outcome.sweep bracketed) ?_
  rcases outcome.calls with none | ⟨made, one, -⟩
  · rw [none, List.append_nil]
    exact books.quiet
  · rw [one]
    refine forall_split_snoc books.quiet fun asks => ?_
    have elsewhere := outcome.of_isConnect (by simp [one]) asks
    rw [books.last, mark_of_not_scanning elsewhere]

theorem run_scanBooks (config : Config) (moments : List Moment) :
    ScanBooks ((Machine.new config).trace moments) ((Machine.new config).run moments).phase := by
  induction moments using List.reverseRecOn with
  | nil => exact scanBooks_new
  | append_singleton moments moment ih =>
    rw [Machine.trace_snoc, Machine.run_snoc]
    exact ih.next (run_bracketed config moments) (handle_outcome _ _ _)

/-! The end of the service. -/

theorem shutdown_outcome (machine : Machine) (answers : Answers) :
    Outcome machine answers .disconnect machine.shutdown := by
  unfold Machine.shutdown
  split
  next idle =>
    cases phase : machine.phase with
    | idle => exact .ignored ⟨by simp [phase], by simp [phase, Phase.connection?]⟩
    | _ => simp [Machine.state, phase, Phase.state] at idle
  next => exact disconnect_outcome machine answers

theorem Outcome.parting (outcome : Outcome machine answers .disconnect step)
    (bracketed : machine.Bracketed) :
    step.calls = (if machine.state = .scanning then [.stopScan]
        else machine.phase.connection?.toList.map .disconnect) ∧
      step.machine.phase ≠ .scanning := by
  cases outcome with
  | ignored inert =>
    obtain ⟨elsewhere, free⟩ := inert
    rw [if_neg (scanning_iff_state.not.mp elsewhere), free]
    exact ⟨rfl, elsewhere⟩
  | scanStopped scanning =>
    rw [if_pos (scanning_iff_state.mp scanning), Scanner.stop_calls, if_pos (bracketed.mpr scanning)]
    exact ⟨rfl, by simp⟩
  | disconnectRequested held =>
    have elsewhere := not_scanning_of_held held
    rw [if_neg (scanning_iff_state.not.mp elsewhere), held]
    exact ⟨rfl, elsewhere⟩

/--
The scanner has a scan exactly while the state says so. In the calls of a run the starts that the radio
accepted and the stops take turns, beginning with a start, so that there is one start more exactly while
scanning, and a connection is asked for only after a stop. The end of the service stops a scan that is
running, asks a connection that is held to end, and calls the radio for nothing else.
-/
theorem scans_bracketed (config : Config) (moments : List Moment) :
    let machine := (Machine.new config).run moments
    let trace := (Machine.new config).trace moments
    (machine.scanner.isScanning = true ↔ machine.state = .scanning) ∧
      (.stopped :: scanMarks trace).IsChain (· ≠ ·) ∧
      (scanMarks trace).count .started =
        (scanMarks trace).count .stopped + (if machine.state = .scanning then 1 else 0) ∧
      (∀ earlier call later, trace = earlier ++ call :: later → isConnect call = true →
        lastMark earlier = .stopped) ∧
      machine.shutdown.calls = (if machine.state = .scanning then [.stopScan]
        else machine.phase.connection?.toList.map .disconnect) ∧
      lastMark (trace ++ machine.shutdown.calls) = .stopped ∧
      machine.shutdown.machine.scanner.isScanning = false ∧
      ∀ station : Station, { station with machine }.shutdown.calls =
        station.calls ++ machine.shutdown.calls.map (station.now, ·) := by
  intro machine trace
  have bracketed : machine.Bracketed := run_bracketed config moments
  have books : ScanBooks trace machine.phase := run_scanBooks config moments
  have outcome := shutdown_outcome machine (willing 1)
  obtain ⟨parting, elsewhere⟩ := outcome.parting bracketed
  refine ⟨bracketed.trans scanning_iff_state, books.alternating, ?_, books.quiet, parting, ?_, ?_, ?_⟩
  · have running : (scanMarks trace).getLastD .stopped = .started ↔ machine.state = .scanning := by
      rw [← scanning_iff_state, ← mark_eq_started, ← books.last, lastMark]
    simpa only [running] using count_of_alternating books.alternating
  · rw [(books.next bracketed outcome).last, mark_of_not_scanning elsewhere]
  · exact Bool.eq_false_iff.mpr fun running => elsewhere ((outcome.bracketed bracketed).mp running)
  · intro station
    rw [Station.shutdown_eq_absorb]
    rfl

/-- The robot is lost and looked for again, and meanwhile the service ends. -/
theorem rescanning_bracketed :
    scanMarks ((Machine.new {}).trace (reconnecting.take 6)) = [.started, .stopped, .started] ∧
      (((Machine.new {}).trace (reconnecting.take 6)).drop 2).head?.any isConnect = true ∧
      lastMark (((Machine.new {}).trace (reconnecting.take 6)).take 2) = .stopped ∧
      ((Machine.new {}).run (reconnecting.take 6)).shutdown.calls = [.stopScan] := by
  have bracketed := scans_bracketed {} (reconnecting.take 6)
  refine ⟨rfl, rfl, bracketed.2.2.2.1 _ _ _ (List.take_append_drop 2 _).symm rfl, ?_⟩
  exact bracketed.2.2.2.2.1.trans rfl

end SpinnerRemote.Link
