import SpinnerRemote.Proofs.Link.Handles

/-!
The numbers of timers. A scan's timer has the number of accepted scans so far, and an attempt's timers that
of the peripherals taken up so far, so no timer is set twice, and one that was set before the latest
scan or attempt began is passed over.
-/
namespace SpinnerRemote.Link

open Transport (Answers Call Connection Peripheral)

def Step.timer? (step : Step) : Option TimerEvent :=
  match step.result with
  | .ok timer => timer.map (·.event)
  | .error _ => none

def Event.timer? : Event → Option TimerEvent
  | .timer expiry => some expiry
  | _ => none

theorem Event.timer?_eq_some {event : Event} {expiry : TimerEvent} :
    event.timer? = some expiry ↔ event = .timer expiry := by
  cases event <;> simp [Event.timer?]

def armed (turns : List Turn) : List TimerEvent := turns.filterMap (·.step.timer?)

def fired (turns : List Turn) : List TimerEvent := turns.filterMap (·.moment.event.timer?)

def beginsScan : Call → Bool
  | .startScan _ (.ok _) => true
  | _ => false

def Step.beginsScan (step : Step) : Bool := step.calls.any Link.beginsScan

def Machine.takes? (machine : Machine) : Event → Option Peripheral
  | .transport (.discovered peripheral) =>
    if machine.phase = .scanning ∧ machine.scanner.isTarget peripheral then some peripheral else none
  | _ => none

def Turn.BeginsScan (turn : Turn) : Prop := turn.step.beginsScan = true

def Turn.Takes (peripheral : Peripheral) (turn : Turn) : Prop :=
  turn.before.takes? turn.moment.event = some peripheral

def scanCount (turns : List Turn) : Nat := turns.countP (·.step.beginsScan)

def attemptCount (turns : List Turn) : Nat :=
  turns.countP fun turn => (turn.before.takes? turn.moment.event).isSome

def TimerEvent.number : TimerEvent → Nat
  | .scanTimedOut scan => scan
  | .connectSettled attempt => attempt
  | .discoveryTimedOut attempt => attempt

/-- How many scans or attempts have begun, as the timer is one of a scan or of an attempt. -/
def generation (turns : List Turn) : TimerEvent → Nat
  | .scanTimedOut _ => scanCount turns
  | _ => attemptCount turns

/-- A scan or an attempt begins. All timers that were set before are old ones then. -/
def Turn.Outdates (turn : Turn) : Prop := turn.BeginsScan ∨ ∃ peripheral, turn.Takes peripheral

def Phase.attempt? : Phase → Option Nat
  | .connecting attempt _ _ => some attempt
  | .discovering attempt _ _ _ => some attempt
  | _ => none

def Phase.isConnecting : Phase → Bool
  | .connecting .. => true
  | _ => false

def Machine.IsCurrent (machine : Machine) : TimerEvent → Prop
  | .scanTimedOut scan => machine.scanner.active = some scan
  | .connectSettled attempt => machine.phase.attempt? = some attempt
  | .discoveryTimedOut attempt => machine.phase.attempt? = some attempt

variable {machine : Machine} {answers : Answers} {event : Event} {step : Step}

/-- What one event does to the numbers. -/
inductive Counting (machine : Machine) (event : Event) (step : Step) : Prop
  | scan (began : step.beginsScan = true) (untaken : machine.takes? event = none)
      (set : step.timer? = some (.scanTimedOut machine.scanner.nextId))
      (running : step.machine.scanner.active = some machine.scanner.nextId)
      (next : step.machine.scanner.nextId = machine.scanner.nextId + 1)
      (same : step.machine.nextAttempt = machine.nextAttempt) (free : step.machine.phase.attempt? = none)
  | attempt {peripheral : Peripheral} (unbegun : step.beginsScan = false)
      (taken : machine.takes? event = some peripheral)
      (set : step.timer? = some (.connectSettled machine.nextAttempt))
      (stopped : step.machine.scanner.active = none)
      (same : step.machine.scanner.nextId = machine.scanner.nextId)
      (next : step.machine.nextAttempt = machine.nextAttempt + 1)
      (phase : step.machine.phase = .connecting machine.nextAttempt peripheral none)
  | discovery {attempt : Nat} (unbegun : step.beginsScan = false) (untaken : machine.takes? event = none)
      (set : step.timer? = none ∨ step.timer? = some (.discoveryTimedOut attempt))
      (scanner : step.machine.scanner = machine.scanner)
      (same : step.machine.nextAttempt = machine.nextAttempt)
      (connecting : machine.phase.isConnecting = true) (before : machine.phase.attempt? = some attempt)
      (left : step.machine.phase.isConnecting = false) (after : step.machine.phase.attempt? = some attempt)
  | quiet (unbegun : step.beginsScan = false) (untaken : machine.takes? event = none)
      (unset : step.timer? = none)
      (stopped : step.machine.scanner.active = machine.scanner.active ∨ step.machine.scanner.active = none)
      (sameScan : step.machine.scanner.nextId = machine.scanner.nextId)
      (sameAttempt : step.machine.nextAttempt = machine.nextAttempt)
      (phase : step.machine.phase.attempt? = none ∨
        step.machine.phase.attempt? = machine.phase.attempt? ∧
          step.machine.phase.isConnecting = machine.phase.isConnecting)

theorem stop_begins_no_scan (scanner : Scanner) : scanner.stop.2.any beginsScan = false := by
  rw [Scanner.stop_calls]
  split <;> rfl

theorem takes_none_of_inert (inert : machine.Inert answers event) : machine.takes? event = none := by
  unfold Machine.takes?
  split
  next peripheral =>
    refine if_neg ?_
    rintro ⟨scanning, target⟩
    rcases inert with elsewhere | other
    · exact elsewhere scanning
    · exact absurd target (by simp [other])
  next => rfl

theorem Outcome.counting (outcome : Outcome machine answers event step) :
    Counting machine event step := by
  cases outcome with
  | ignored inert =>
    exact .quiet rfl (takes_none_of_inert inert) rfl (.inl rfl) rfl rfl (.inr ⟨rfl, rfl⟩)
  | scanStarted => exact .scan rfl rfl rfl rfl rfl rfl rfl
  | found scanning target =>
    exact .attempt (stop_begins_no_scan _) (if_pos ⟨scanning, target⟩) rfl (Scanner.stop_active _)
      (Scanner.stop_nextId _) rfl rfl
  | connected connecting =>
    refine .discovery rfl rfl ?_ rfl rfl (by simp [connecting, Phase.isConnecting])
      (by simp [connecting, Phase.attempt?]) rfl rfl
    cases machine.config.discoveryTimeout <;> simp [Step.timer?]
  | scanForbidden | scanRefused | disconnectRequested | discoveryExpired | servicesFailed | measured =>
    exact .quiet rfl rfl rfl (.inl rfl) rfl rfl (.inr ⟨rfl, rfl⟩)
  | scanStopped | scanExpired =>
    exact .quiet (stop_begins_no_scan _) rfl rfl (.inr (Scanner.stop_active _)) (Scanner.stop_nextId _) rfl
      (.inl rfl)
  | wrote | written | connectForbidden | connectRefused | disconnected | becameReady =>
    exact .quiet rfl rfl rfl (.inl rfl) rfl rfl (.inl rfl)
  | @writeRefused frame _ _ _ rejected =>
    exact .quiet rfl rfl (by cases rejected <;> rfl) (.inl rfl) rfl rfl (.inl rfl)
  | connectAccepted phase | searchedWithoutTelemetry phase | searched phase =>
    exact .quiet rfl rfl rfl (.inl rfl) rfl rfl
      (.inr ⟨by simp [phase, Phase.attempt?], by simp [phase, Phase.isConnecting]⟩)

theorem Turn.counting (turn : Turn) : Counting turn.before turn.moment.event turn.step :=
  (handle_outcome turn.before turn.moment.answers turn.moment.event).counting

theorem armed_snoc (turns : List Turn) (turn : Turn) :
    armed (turns ++ [turn]) = armed turns ++ turn.step.timer?.toList := by
  cases set : turn.step.timer? <;> simp [armed, set]

theorem scanCount_append (turns more : List Turn) :
    scanCount (turns ++ more) = scanCount turns + scanCount more := List.countP_append

theorem attemptCount_append (turns more : List Turn) :
    attemptCount (turns ++ more) = attemptCount turns + attemptCount more := List.countP_append

theorem generation_append (turns more : List Turn) (timer : TimerEvent) :
    generation (turns ++ more) timer = generation turns timer + generation more timer := by
  cases timer with
  | scanTimedOut => exact scanCount_append turns more
  | connectSettled | discoveryTimedOut => exact attemptCount_append turns more

theorem attempt?_of_connecting {phase : Phase} (connecting : phase.isConnecting = true) :
    phase.attempt?.isSome = true := by
  cases phase <;> simp_all [Phase.isConnecting, Phase.attempt?]

/-- The numbers given out so far. -/
structure Numbered (turns : List Turn) (machine : Machine) : Prop where
  scans : machine.scanner.nextId = scanCount turns + 1
  attempts : machine.nextAttempt = attemptCount turns + 1
  current : ∀ attempt, machine.phase.attempt? = some attempt → attempt = attemptCount turns
  bounded : ∀ timer ∈ armed turns, timer.number ≤ generation turns timer
  undiscovered : machine.phase.isConnecting = true → .discoveryTimedOut (attemptCount turns) ∉ armed turns
  distinct : (armed turns).Nodup

theorem numbered_new (config : Config) : Numbered [] (Machine.new config) where
  scans := rfl
  attempts := rfl
  current := by simp [Machine.new, Phase.attempt?]
  bounded := by simp [armed]
  undiscovered := by simp [armed]
  distinct := List.nodup_nil

variable {turns : List Turn} {turn : Turn}

theorem Numbered.not_mem_armed (numbered : Numbered turns machine) {timer : TimerEvent}
    (unused : generation turns timer < timer.number) : timer ∉ armed turns := by
  intro member
  exact absurd (numbered.bounded timer member) (Nat.not_le.mpr unused)

theorem Numbered.bounded_snoc (numbered : Numbered turns turn.before)
    (within : ∀ timer, turn.step.timer? = some timer →
      timer.number ≤ generation (turns ++ [turn]) timer) :
    ∀ timer ∈ armed (turns ++ [turn]), timer.number ≤ generation (turns ++ [turn]) timer := by
  intro timer member
  rw [armed_snoc, List.mem_append] at member
  rcases member with earlier | now
  · have bound := numbered.bounded timer earlier
    rw [generation_append]
    omega
  · exact within timer (by simpa using now)

theorem Numbered.distinct_snoc (numbered : Numbered turns turn.before)
    (fresh : ∀ timer, turn.step.timer? = some timer → timer ∉ armed turns) :
    (armed (turns ++ [turn])).Nodup := by
  rw [armed_snoc]
  cases set : turn.step.timer? with
  | none => simpa using numbered.distinct
  | some timer =>
    refine List.nodup_append.mpr ⟨numbered.distinct, by simp, ?_⟩
    intro other member last final
    rw [Option.toList_some, List.mem_singleton] at final
    rintro rfl
    exact fresh timer set (final ▸ member)

theorem Numbered.next (numbered : Numbered turns turn.before) :
    Numbered (turns ++ [turn]) turn.step.machine := by
  have scans := scanCount_append turns [turn]
  have attempts := attemptCount_append turns [turn]
  have firstScan := numbered.scans
  have firstAttempt := numbered.attempts
  cases turn.counting with
  | scan began untaken set running next same free =>
    have one : scanCount [turn] = 1 := by simp [scanCount, began]
    have none : attemptCount [turn] = 0 := by simp [attemptCount, untaken]
    refine ⟨by omega, by omega, ?_, numbered.bounded_snoc ?_, ?_, numbered.distinct_snoc ?_⟩
    · simp [free]
    · intro timer now
      rw [set] at now
      cases now
      simp only [TimerEvent.number, generation]
      omega
    · intro connecting
      have held := attempt?_of_connecting connecting
      simp [free] at held
    · intro timer now
      rw [set] at now
      cases now
      refine numbered.not_mem_armed ?_
      simp only [TimerEvent.number, generation]
      omega
  | @attempt peripheral unbegun taken set stopped same next phase =>
    have none : scanCount [turn] = 0 := by simp [scanCount, unbegun]
    have one : attemptCount [turn] = 1 := by simp [attemptCount, taken]
    refine ⟨by omega, by omega, ?_, numbered.bounded_snoc ?_, ?_, numbered.distinct_snoc ?_⟩
    · intro attempt held
      rw [phase] at held
      cases held
      omega
    · intro timer now
      rw [set] at now
      cases now
      simp only [TimerEvent.number, generation]
      omega
    · intro _ member
      rw [armed_snoc, set] at member
      have earlier : .discoveryTimedOut (attemptCount (turns ++ [turn])) ∈ armed turns := by
        simpa using member
      refine numbered.not_mem_armed ?_ earlier
      simp only [TimerEvent.number, generation]
      omega
    · intro timer now
      rw [set] at now
      cases now
      refine numbered.not_mem_armed ?_
      simp only [TimerEvent.number, generation]
      omega
  | @discovery attempt unbegun untaken set scanner same connecting before left after =>
    have none : scanCount [turn] = 0 := by simp [scanCount, unbegun]
    have steady : attemptCount [turn] = 0 := by simp [attemptCount, untaken]
    have latest := numbered.current attempt before
    have only : ∀ timer, turn.step.timer? = some timer → timer = .discoveryTimedOut attempt := by
      intro timer now
      rcases set with unset | armed
      · simp [unset] at now
      · simpa [armed] using now.symm
    refine ⟨?_, by omega, ?_, numbered.bounded_snoc ?_, ?_, numbered.distinct_snoc ?_⟩
    · rw [scanner]
      omega
    · intro other held
      rw [after] at held
      cases held
      omega
    · intro timer now
      rw [only timer now]
      simp only [TimerEvent.number, generation]
      omega
    · simp [left]
    · intro timer now
      rw [only timer now, latest]
      exact numbered.undiscovered connecting
  | quiet unbegun untaken unset stopped sameScan sameAttempt phase =>
    have none : scanCount [turn] = 0 := by simp [scanCount, unbegun]
    have steady : attemptCount [turn] = 0 := by simp [attemptCount, untaken]
    refine ⟨by omega, by omega, ?_, numbered.bounded_snoc ?_, ?_, numbered.distinct_snoc ?_⟩
    · intro attempt held
      rcases phase with left | ⟨kept, -⟩
      · simp [left] at held
      · have current := numbered.current attempt (kept ▸ held)
        omega
    · simp [unset]
    · intro connecting
      rcases phase with left | ⟨-, kept⟩
      · have held := attempt?_of_connecting connecting
        simp [left] at held
      · rw [armed_snoc, unset, attempts, steady]
        simpa using numbered.undiscovered (kept ▸ connecting)
    · simp [unset]

theorem run_numbered (config : Config) (moments : List Moment) :
    Numbered ((Machine.new config).history moments) ((Machine.new config).run moments) := by
  induction moments using List.reverseRecOn with
  | nil => exact numbered_new config
  | append_singleton moments moment ih =>
    rw [Machine.history_snoc, Machine.run_snoc]
    exact ih.next

/-- Scans and attempts are counted: a run gives out no more numbers than it has events. -/
theorem run_numbers_le (config : Config) (moments : List Moment) :
    ((Machine.new config).run moments).scanner.nextId ≤ moments.length + 1 ∧
      ((Machine.new config).run moments).nextAttempt ≤ moments.length + 1 := by
  have numbered := run_numbered config moments
  have turns : ((Machine.new config).history moments).length = moments.length := Machine.history_length ..
  constructor
  · rw [numbered.scans, ← turns]
    exact Nat.succ_le_succ List.countP_le_length
  · rw [numbered.attempts, ← turns]
    exact Nat.succ_le_succ List.countP_le_length

/-! A timer does something only while it is current, and a number that was given out once is current no
more after the next scan or attempt has begun. -/

theorem Turn.stay_or_current {timer : TimerEvent} (runsOut : turn.moment.event = .timer timer) :
    turn.step = turn.before.stay ∨ turn.before.IsCurrent timer := by
  have outcome := handle_outcome turn.before turn.moment.answers turn.moment.event
  rw [runsOut] at outcome
  rw [Turn.step, runsOut]
  generalize turn.before.handle turn.moment.answers (.timer timer) = step at outcome ⊢
  cases outcome with
  | ignored => exact .inl rfl
  | scanExpired running => exact .inr running
  | connectForbidden settling | connectAccepted settling | connectRefused settling =>
    exact .inr (by rw [Machine.IsCurrent, settling]; rfl)
  | discoveryExpired discovering => exact .inr (by rw [Machine.IsCurrent, discovering]; rfl)

theorem Turn.current_before (numbered : Numbered turns turn.before) {timer : TimerEvent}
    (given : timer.number ≤ generation turns timer) (current : turn.step.machine.IsCurrent timer) :
    turn.before.IsCurrent timer ∧ ¬turn.Outdates := by
  have nextScan := numbered.scans
  have nextAttempt := numbered.attempts
  -- What begins in this turn gets a number that was not given out before, so the timer is none of its own.
  cases turn.counting with
  | scan began untaken set running next same free =>
    cases timer with
    | scanTimedOut scan =>
      obtain rfl : turn.before.scanner.nextId = scan := Option.some.inj (running.symm.trans current)
      simp only [TimerEvent.number, generation] at given
      omega
    | connectSettled attempt | discoveryTimedOut attempt => cases free.symm.trans current
  | @attempt peripheral unbegun taken set stopped same next phase =>
    cases timer with
    | scanTimedOut scan => cases stopped.symm.trans current
    | connectSettled attempt | discoveryTimedOut attempt =>
      simp only [Machine.IsCurrent, phase, Phase.attempt?, Option.some.injEq] at current
      simp only [TimerEvent.number, generation] at given
      omega
  | discovery unbegun untaken set scanner same connecting before left after =>
    refine ⟨?_, by simp [Turn.Outdates, Turn.BeginsScan, Turn.Takes, unbegun, untaken]⟩
    cases timer with
    | scanTimedOut scan => exact (congrArg Scanner.active scanner).symm.trans current
    | connectSettled attempt | discoveryTimedOut attempt => exact before.trans (after.symm.trans current)
  | quiet unbegun untaken unset stopped sameScan sameAttempt phase =>
    refine ⟨?_, by simp [Turn.Outdates, Turn.BeginsScan, Turn.Takes, unbegun, untaken]⟩
    cases timer with
    | scanTimedOut scan =>
      rcases stopped with kept | ended
      · exact kept.symm.trans current
      · cases ended.symm.trans current
    | connectSettled attempt | discoveryTimedOut attempt =>
      rcases phase with left | ⟨kept, -⟩
      · cases left.symm.trans current
      · exact kept.symm.trans current

/-- A timer that is current after a run was current before it, and no scan and no attempt has begun. -/
theorem Machine.current_before_run (numbered : Numbered turns machine) {timer : TimerEvent}
    (given : timer.number ≤ generation turns timer) (moments : List Moment)
    (current : (machine.run moments).IsCurrent timer) :
    machine.IsCurrent timer ∧ ∀ turn ∈ machine.history moments, ¬turn.Outdates := by
  induction moments generalizing machine turns with
  | nil => exact ⟨current, by simp [Machine.history]⟩
  | cons moment rest ih =>
    let turn : Turn := ⟨machine, moment⟩
    have still : timer.number ≤ generation (turns ++ [turn]) timer := by
      rw [generation_append]
      omega
    have later : Numbered (turns ++ [turn]) turn.step.machine := Numbered.next numbered
    obtain ⟨next, steady⟩ := ih later still current
    obtain ⟨before, first⟩ : machine.IsCurrent timer ∧ ¬turn.Outdates :=
      Turn.current_before numbered given next
    exact ⟨before, List.forall_mem_cons.mpr ⟨first, steady⟩⟩

/-- A timer that was set before a later scan or attempt began is passed over. -/
theorem stay_of_outdated {config : Config} {moments : List Moment} {earlier between later : List Turn}
    {setting turn : Turn} {timer : TimerEvent}
    (split : (Machine.new config).history moments = earlier ++ setting :: between ++ turn :: later)
    (set : setting.step.timer? = some timer) (runsOut : turn.moment.event = .timer timer)
    (outdated : ∃ begun ∈ between, begun.Outdates) : turn.step = turn.before.stay := by
  rw [List.append_assoc, List.cons_append] at split
  obtain ⟨front, back, -, before, reached, after, -⟩ := Machine.history_after split
  obtain ⟨passed, _, -, since, now⟩ := Machine.history_eq_append after
  have first : Numbered earlier setting.before := by
    rw [← before, ← reached]
    exact run_numbered config front
  have given : timer.number ≤ generation (earlier ++ [setting]) timer :=
    first.next.bounded timer (by simp [armed_snoc, set])
  refine (Turn.stay_or_current runsOut).resolve_right fun current => ?_
  rw [← now] at current
  obtain ⟨begun, member, outdates⟩ := outdated
  exact (Machine.current_before_run first.next given passed current).2 begun (since ▸ member) outdates

end SpinnerRemote.Link
