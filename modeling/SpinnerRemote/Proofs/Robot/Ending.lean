import Mathlib.Data.List.Induction
import SpinnerRemote.Proofs.Robot.Simulator

/-!
The end of a connection that is asked for more than once. The robot is met with anything: calls by whoever
uses it, jobs that are due, the loss of power. `end_follows_last_request` shows that the end comes once, and
that each request puts it off anew: it is due as long after the last request as it was after the first.
-/
namespace SpinnerRemote.Robot

open Transport (Call Connection)

/-- What happens to the robot: a call, whatever its answer; a job, which is done at the time at which it is
due; the loss of power. -/
inductive Act where
  | call (now : Nat) (made : Call)
  | job (index : Nat)
  | powerOff (now : Nat)

def endOf (connection : Connection) : Transport.Event → Bool
  | .disconnected ended _ => ended == connection
  | _ => false

def Job.end? (connection : Connection) (job : Job) : Option (Nat × Transport.Event) :=
  (job.task.event?.filter (endOf connection)).map (job.due, ·)

def requests (connection : Connection) (acts : List Act) : List Nat :=
  acts.filterMap fun
    | .call now (.disconnect ended) => if ended = connection then some now else none
    | _ => none

def endsAmong (connection : Connection) (reports : List (Nat × Transport.Event)) :
    List (Nat × Transport.Event) :=
  reports.filter fun report => endOf connection report.2

/-- It neither asks a connection to end nor closes it. -/
def Act.Spares (connection : Connection) : Act → Prop
  | .call _ made => made ≠ .disconnect connection ∧ made ≠ .close connection
  | _ => True

namespace Simulator

def dueAt (robot : Simulator) (index : Nat) : Nat := (robot.jobs[index]?.map (·.due)).getD 0

def act (robot : Simulator) : Act → Simulator × List (Nat × Transport.Event)
  | .call now call => (robot.perform now call, [])
  | .job index =>
    let (after, events) := robot.runJob (robot.dueAt index) index
    (after, events.map (robot.dueAt index, ·))
  | .powerOff now =>
    let (after, events) := robot.powerOff
    (after, events.map (now, ·))

def after (robot : Simulator) (acts : List Act) : Simulator :=
  acts.foldl (fun robot act => (robot.act act).1) robot

def reports (robot : Simulator) : List Act → List (Nat × Transport.Event)
  | [] => []
  | act :: rest => (robot.act act).2 ++ reports (robot.act act).1 rest

def scheduledEnds (robot : Simulator) (connection : Connection) : List (Nat × Transport.Event) :=
  robot.jobs.filterMap (·.end? connection)

def jobsOf (robot : Simulator) (connection : Connection) : List Job :=
  robot.jobs.filter (·.task.isOf connection)

variable {robot : Simulator} {now : Nat} {connection : Connection}

theorem after_snoc (robot : Simulator) (acts : List Act) (act : Act) :
    robot.after (acts ++ [act]) = ((robot.after acts).act act).1 := by
  simp [after]

theorem reports_snoc (robot : Simulator) (acts : List Act) (act : Act) :
    robot.reports (acts ++ [act]) = robot.reports acts ++ ((robot.after acts).act act).2 := by
  induction acts generalizing robot with
  | nil => simp [reports, after]
  | cons first rest ih => simp [reports, ih, after]

theorem act_nextConnection_le (robot : Simulator) (act : Act) :
    (robot.act act).1.nextConnection ≤ robot.nextConnection + 1 := by
  cases act with
  | call now call =>
    simp only [Simulator.act, perform_connections, nextAfter]
    split
    next => exact Nat.le_refl _
    next => exact Nat.le_succ _
  | job index =>
    obtain ⟨jobs, same⟩ := robot.runJob_eq (robot.dueAt index) index
    simp [Simulator.act, same]
  | powerOff now =>
    simp only [Simulator.act, Simulator.powerOff]
    split <;> exact Nat.le_succ _

/-- Handles are counted: there are no more of them than things have happened to the robot. -/
theorem nextConnection_after_le (robot : Simulator) (acts : List Act) :
    (robot.after acts).nextConnection ≤ robot.nextConnection + acts.length := by
  induction acts using List.reverseRecOn with
  | nil => exact Nat.le_refl _
  | append_singleton acts act ih =>
    rw [after_snoc, List.length_append, List.length_singleton, ← Nat.add_assoc]
    exact Nat.le_trans (act_nextConnection_le (robot.after acts) act) (Nat.add_le_add_right ih 1)

/-! Every job reports of the connection to which it belongs. -/

def Owned (robot : Simulator) : Prop :=
  ∀ job ∈ robot.jobs, ∀ owner event, job.task = .deliver owner event → event.connection? = some owner

theorem Owned.addJob (owned : robot.Owned) {due : Nat} {task : Task}
    (own : ∀ owner event, task = .deliver owner event → event.connection? = some owner) :
    (robot.addJob due task).Owned := by
  intro job member
  rcases List.mem_append.mp member with before | new
  · exact owned job before
  · rw [List.mem_singleton.mp new]
    exact own

theorem Owned.dropJobs (owned : robot.Owned) (drop : Task → Bool) : (robot.dropJobs drop).Owned :=
  fun job member => owned job (List.mem_of_mem_filter member)

theorem Owned.addAdvertising (owned : robot.Owned) (now : Nat) (peripherals : List Transport.Peripheral) :
    (robot.addAdvertising now peripherals).Owned := by
  cases peripherals with
  | nil => exact owned
  | cons => exact owned.addJob (by simp)

theorem Owned.deliver (owned : robot.Owned) (due : Nat) {event : Transport.Event}
    (own : event.connection? = some connection) : (robot.deliver due connection event).Owned := by
  refine owned.addJob ?_
  rintro _ _ ⟨⟩
  exact own

theorem Owned.perform (owned : robot.Owned) (now : Nat) (call : Call) : (robot.perform now call).Owned := by
  cases call with
  | startScan name answer =>
    cases answer with
    | error => exact owned
    | ok => exact (owned.dropJobs _).addAdvertising now _
  | stopScan => exact owned.dropJobs _
  | connect peripheral answer =>
    cases answer with
    | error => exact owned
    | ok =>
      have held : Owned { robot with
          nextConnection := robot.nextConnection + 1
          known := robot.known ++ [robot.nextConnection]
          connection := some robot.nextConnection } := owned
      exact held.deliver _ rfl
  | discoverServices connection answer =>
    cases answer with
    | error => exact owned
    | ok => exact owned.deliver _ rfl
  | enableNotification connection characteristic accepted =>
    cases accepted with
    | false => exact owned
    | true => exact owned.addJob (by simp)
  | write connection characteristic bytes answer =>
    cases answer with
    | error => exact owned
    | ok =>
      have held : (robot.takeFrame bytes).1.Owned := by
        unfold Owned
        rw [takeFrame_jobs]
        exact owned
      exact held.deliver _ rfl
  | disconnect connection =>
    simp only [Simulator.perform, Simulator.disconnect]
    split
    · exact Owned.deliver (owned.dropJobs _) _ rfl
    · exact owned
  | close connection => exact owned.dropJobs _

theorem Owned.runJob (owned : robot.Owned) (now index : Nat) : (robot.runJob now index).1.Owned := by
  unfold Simulator.runJob
  split
  next job _ =>
    have rest : Owned { robot with jobs := robot.jobs.eraseIdx index } :=
      fun job member => owned job (List.mem_of_mem_eraseIdx member)
    cases task : job.task with
    | advertise first others => exact rest.addAdvertising now others
    | deliver => exact rest
    | report => exact rest.addJob (by simp)
  next => exact owned

/-- The jobs and the connections of a robot that has been in use. -/
structure Sound (robot : Simulator) : Prop where
  owned : robot.Owned
  fresh : ∀ connection ∈ robot.known, connection < robot.nextConnection

theorem knownAfter_lt (sound : robot.Sound) (call : Call) :
    ∀ connection ∈ robot.knownAfter call, connection < robot.nextAfter call := by
  intro connection member
  unfold knownAfter at member
  split at member
  next =>
    rcases List.mem_append.mp member with before | new
    · exact Nat.lt_succ_of_lt (sound.fresh connection before)
    · rw [List.mem_singleton.mp new]
      exact Nat.lt_succ_self _
  next => exact sound.fresh connection (List.mem_of_mem_filter member)
  next other _ =>
    rw [nextAfter]
    · exact sound.fresh connection member
    · exact other

theorem Sound.act (sound : robot.Sound) (act : Act) : (robot.act act).1.Sound := by
  cases act with
  | call now call =>
    refine ⟨sound.owned.perform now call, ?_⟩
    rw [Simulator.act, perform_known, (robot.perform_connections now call).2]
    exact knownAfter_lt sound call
  | job index =>
    refine ⟨sound.owned.runJob _ index, ?_⟩
    obtain ⟨connection, jobs, same⟩ := (robot.runJob_unprompted (robot.dueAt index) index).same
    rw [Simulator.act, same]
    exact sound.fresh
  | powerOff now =>
    simp only [Simulator.act, Simulator.powerOff]
    split <;> exact ⟨sound.owned, sound.fresh⟩

theorem after_sound {settings : Settings} (built : ofSettings settings = .ok robot) (acts : List Act) :
    (robot.after acts).Sound := by
  induction acts using List.reverseRecOn with
  | nil =>
    rw [eq_of_ofSettings built]
    exact ⟨by simp [Owned, after], by simp [after]⟩
  | append_singleton acts act ih =>
    rw [after_snoc]
    exact ih.act act

/-! What happens to the ends of a connection. -/

theorem end?_eq_some {job : Job} {report : Nat × Transport.Event} :
    job.end? connection = some report ↔
      ∃ event, job.task.event? = some event ∧ endOf connection event = true ∧ (job.due, event) = report := by
  simp [Job.end?, Option.map_eq_some_iff, Option.filter_eq_some_iff, and_assoc]

theorem Owned.isOf_of_end? (owned : robot.Owned) {job : Job} (member : job ∈ robot.jobs)
    {report : Nat × Transport.Event} (ends : job.end? connection = some report) :
    job.task.isOf connection = true := by
  obtain ⟨event, delivers, ended, -⟩ := end?_eq_some.mp ends
  cases task : job.task with
  | advertise | report => simp [task, Task.event?] at delivers
  | deliver owner delivered =>
    obtain rfl : delivered = event := by simpa [task, Task.event?] using delivers
    have own := owned job member owner delivered task
    cases delivered with
    | disconnected => simp_all [endOf, Task.isOf, Transport.Event.connection?]
    | _ => cases ended

@[simp] theorem scheduledEnds_addJob (robot : Simulator) (due : Nat) (task : Task) :
    (robot.addJob due task).scheduledEnds connection =
      robot.scheduledEnds connection ++ (Job.end? connection ⟨due, task⟩).toList := by
  cases ends : Job.end? connection ⟨due, task⟩ <;> simp [scheduledEnds, addJob, ends]

@[simp] theorem scheduledEnds_takeFrame (robot : Simulator) (bytes : List UInt8) :
    (robot.takeFrame bytes).1.scheduledEnds connection = robot.scheduledEnds connection := by
  rw [scheduledEnds, takeFrame_jobs, scheduledEnds]

@[simp] theorem scheduledEnds_addAdvertising (robot : Simulator) (now : Nat)
    (peripherals : List Transport.Peripheral) :
    (robot.addAdvertising now peripherals).scheduledEnds connection = robot.scheduledEnds connection := by
  cases peripherals <;> simp [addAdvertising, Job.end?, Task.event?]

theorem scheduledEnds_dropJobs {drop : Task → Bool}
    (kept : ∀ job ∈ robot.jobs, drop job.task = true → job.end? connection = none) :
    (robot.dropJobs drop).scheduledEnds connection = robot.scheduledEnds connection := by
  simp only [scheduledEnds, dropJobs, List.filterMap_filter]
  refine List.filterMap_congr fun job member => ?_
  cases dropped : drop job.task with
  | false => rfl
  | true => exact (kept job member dropped).symm

theorem scheduledEnds_dropScans :
    (robot.dropJobs Task.isScan).scheduledEnds connection = robot.scheduledEnds connection := by
  refine scheduledEnds_dropJobs fun job _ scan => ?_
  cases task : job.task with
  | advertise => simp [Job.end?, task, Task.event?]
  | deliver | report => simp [task, Task.isScan] at scan

theorem scheduledEnds_dropOthers (owned : robot.Owned) {other : Connection} (differs : other ≠ connection) :
    (robot.dropJobs (Task.isOf other)).scheduledEnds connection = robot.scheduledEnds connection := by
  refine scheduledEnds_dropJobs fun job member dropped => ?_
  cases ends : job.end? connection with
  | none => rfl
  | some report =>
    have own := owned.isOf_of_end? member ends
    cases task : job.task <;> simp_all [Task.isOf]

theorem scheduledEnds_perform (owned : robot.Owned) {call : Call}
    (ends : call ≠ .disconnect connection) (closes : call ≠ .close connection) :
    (robot.perform now call).scheduledEnds connection = robot.scheduledEnds connection := by
  cases call with
  | startScan name answer =>
    cases answer with
    | error => rfl
    | ok => simp [perform, startScan, scheduledEnds_dropScans]
  | stopScan => exact scheduledEnds_dropScans
  | connect peripheral answer =>
    cases answer with
    | error => rfl
    | ok =>
      simp only [perform, connect, deliver, scheduledEnds_addJob]
      exact List.append_nil _
  | discoverServices other answer =>
    cases answer with
    | error => rfl
    | ok => simp [perform, discoverServices, deliver, Job.end?, Task.event?, endOf]
  | enableNotification other characteristic accepted =>
    cases accepted with
    | false => rfl
    | true => simp [perform, enableNotification, Job.end?, Task.event?]
  | write other characteristic bytes answer =>
    cases answer with
    | error => rfl
    | ok => simp [perform, write, deliver, Job.end?, Task.event?, endOf]
  | disconnect other =>
    have differs : other ≠ connection := fun same => ends (by rw [same])
    simp only [perform, disconnect]
    split
    · refine Eq.trans ?_ (scheduledEnds_dropOthers owned differs)
      simp only [deliver, scheduledEnds_addJob]
      simp [Job.end?, Task.event?, endOf, differs, scheduledEnds]
    · rfl
  | close other =>
    have differs : other ≠ connection := fun same => closes (by rw [same])
    exact scheduledEnds_dropOthers owned differs

theorem run_ends (robot : Simulator) (job : Job) :
    endsAmong connection [(job.due, (robot.run job.due job.task).2)] ++
        (robot.run job.due job.task).1.scheduledEnds connection =
      (job.end? connection).toList ++ robot.scheduledEnds connection := by
  cases task : job.task with
  | advertise | report => simp [Simulator.run, endsAmong, endOf, Job.end?, task, Task.event?]
  | deliver owner event =>
    cases ended : endOf connection event <;>
      simp [Simulator.run, endsAmong, ended, Job.end?, task, Task.event?, Option.filter]

/-- A job that is done takes an end from what is scheduled to what is reported, or neither changes. -/
theorem runJob_ends (robot : Simulator) (connection : Connection) (index : Nat) :
    (endsAmong connection (robot.act (.job index)).2 ++
      (robot.act (.job index)).1.scheduledEnds connection).Perm (robot.scheduledEnds connection) := by
  simp only [Simulator.act, runJob, dueAt]
  split
  next job found =>
    obtain ⟨inside, same⟩ := List.getElem?_eq_some_iff.mp found
    have whole := (List.getElem_cons_eraseIdx_perm inside).filterMap (·.end? connection)
    have taken : ((job.end? connection).toList ++
        { robot with jobs := robot.jobs.eraseIdx index }.scheduledEnds connection).Perm
          (robot.scheduledEnds connection) := by
      rw [same] at whole
      cases ends : job.end? connection <;> simpa [ends, scheduledEnds] using whole
    rw [found]
    exact (List.Perm.of_eq (run_ends { robot with jobs := robot.jobs.eraseIdx index } job)).trans taken
  next => exact .refl _

theorem jobsOf_disconnect (known : robot.isKnown connection = true) (now : Nat) :
    (robot.perform now (.disconnect connection)).jobsOf connection =
      [⟨now + robot.settings.connectLatency,
        .deliver connection (.disconnected connection Transport.success)⟩] := by
  simp only [perform, disconnect, known, if_true, jobsOf, deliver, addJob, dropJobs, List.filter_append,
    List.filter_filter]
  simp [Task.isOf]

theorem Owned.scheduledEnds_eq (owned : robot.Owned) (connection : Connection) :
    robot.scheduledEnds connection = (robot.jobsOf connection).filterMap (·.end? connection) := by
  rw [jobsOf, List.filterMap_filter, scheduledEnds]
  refine List.filterMap_congr fun job member => ?_
  cases ends : job.end? connection with
  | none => simp
  | some report => rw [if_pos (owned.isOf_of_end? member ends)]

theorem scheduledEnds_disconnect (owned : robot.Owned) (known : robot.isKnown connection = true)
    (now : Nat) :
    (robot.perform now (.disconnect connection)).scheduledEnds connection =
      [(now + robot.settings.connectLatency, .disconnected connection Transport.success)] := by
  rw [(owned.perform now _).scheduledEnds_eq, jobsOf_disconnect known]
  simp [Job.end?, Task.event?, endOf]

theorem act_settings (robot : Simulator) (act : Act) : (robot.act act).1.settings = robot.settings := by
  cases act with
  | call now call => exact robot.perform_settings now call
  | job index =>
    obtain ⟨connection, jobs, same⟩ := (robot.runJob_unprompted (robot.dueAt index) index).same
    rw [Simulator.act, same]
  | powerOff now =>
    obtain ⟨connection, jobs, same⟩ := robot.powerOff_unprompted.same
    rw [Simulator.act, same]

theorem after_settings (robot : Simulator) (acts : List Act) :
    (robot.after acts).settings = robot.settings := by
  induction acts using List.reverseRecOn with
  | nil => rfl
  | append_singleton acts act ih => rw [after_snoc, act_settings, ih]

/-- A connection that was asked to end, last at a time: whatever was reported since the first request and
what is scheduled are together one end, and the robot has no such connection any more. -/
structure Ending (robot : Simulator) (connection : Connection)
    (reports : List (Nat × Transport.Event)) (last : Nat) : Prop where
  ends : endsAmong connection reports ++ robot.scheduledEnds connection =
    [(last + robot.settings.connectLatency, .disconnected connection Transport.success)]
  known : robot.isKnown connection = true
  off : robot.connection ≠ some connection

theorem ending_of_request (sound : robot.Sound) (known : robot.isKnown connection = true)
    {reports : List (Nat × Transport.Event)} (unreported : endsAmong connection reports = []) (now : Nat) :
    Ending (robot.perform now (.disconnect connection)) connection reports now where
  ends := by
    rw [unreported, List.nil_append, scheduledEnds_disconnect sound.owned known, perform_settings]
  known := by
    rw [isKnown, perform_known]
    exact known
  off := by
    rw [(robot.perform_connections now _).1, connectionAfter]
    split
    next => simp
    next other => exact fun held => other ⟨known, held⟩

variable {reports : List (Nat × Transport.Event)} {last : Nat}

theorem endsAmong_append (reports more : List (Nat × Transport.Event)) :
    endsAmong connection (reports ++ more) = endsAmong connection reports ++ endsAmong connection more :=
  List.filter_append ..

theorem knownAfter_of_spared (known : robot.isKnown connection = true) {call : Call}
    (closes : call ≠ .close connection) : connection ∈ robot.knownAfter call := by
  have before : connection ∈ robot.known := by simpa [isKnown] using known
  unfold knownAfter
  split
  next => exact List.mem_append_left _ before
  next ended =>
    refine List.mem_filter.mpr ⟨before, ?_⟩
    simpa using fun same => closes (by rw [same])
  next => exact before

theorem Ending.spared (ending : Ending robot connection reports last) (sound : robot.Sound) {act : Act}
    (spares : act.Spares connection) :
    Ending (robot.act act).1 connection (reports ++ (robot.act act).2) last := by
  have known : connection ∈ robot.known := by simpa [isKnown] using ending.known
  cases act with
  | call now call =>
    obtain ⟨ends, closes⟩ := spares
    refine ⟨?_, ?_, ?_⟩
    · simpa [Simulator.act, scheduledEnds_perform sound.owned ends closes] using ending.ends
    · simpa [Simulator.act, isKnown] using knownAfter_of_spared ending.known closes
    · -- A connection that begins now is a new one.
      have fresh : robot.nextConnection ≠ connection := Nat.ne_of_gt (sound.fresh connection known)
      rw [Simulator.act, (robot.perform_connections now call).1]
      unfold connectionAfter
      split
      next => simpa using fresh
      next =>
        split
        · simp
        · exact ending.off
      next => exact ending.off
  | job index =>
    have moved := (robot.runJob_ends connection index).append_left
      (endsAmong connection reports)
    rw [ending.ends, List.perm_singleton] at moved
    obtain ⟨jobs, same⟩ := robot.runJob_eq (robot.dueAt index) index
    refine ⟨?_, ?_, ?_⟩
    · rw [endsAmong_append, List.append_assoc, moved, act_settings]
    · rw [Simulator.act, same]
      exact ending.known
    · rw [Simulator.act, same]
      exact ending.off
  | powerOff now =>
    simp only [Simulator.act, Simulator.powerOff]
    split
    next up held =>
      have other : (up == connection) = false := by
        rw [beq_eq_false_iff_ne]
        rintro rfl
        exact ending.off held
      have unrelated : endsAmong connection [(now, .disconnected up connectionTimeout)] = [] := by
        simp [endsAmong, endOf, other]
      refine ⟨?_, ending.known, by simp⟩
      rw [List.map_singleton, endsAmong_append, unrelated, List.append_nil]
      exact ending.ends
    next =>
      refine ⟨?_, ending.known, ending.off⟩
      rw [List.map_nil, List.append_nil]
      exact ending.ends

/-! Requests that come before the end does. -/

theorem requests_request (acts : List Act) (now : Nat) :
    requests connection (acts ++ [.call now (.disconnect connection)]) =
      requests connection acts ++ [now] := by
  simp [requests]

theorem requests_spared (acts : List Act) {act : Act} (spares : act.Spares connection) :
    requests connection (acts ++ [act]) = requests connection acts := by
  unfold requests
  rw [List.filterMap_append]
  cases act with
  | call now made =>
    cases made with
    | disconnect ended =>
      have differs : ended ≠ connection := fun same => spares.1 (by rw [same])
      simp [differs]
    | _ => simp
  | _ => simp

theorem run_ending (sound : ∀ acts, (robot.after acts).Sound) {first : Nat}
    (asked : Ending robot connection [] first) {later : List Act}
    (unclosed : ∀ now, .call now (.close connection) ∉ later)
    (early : ∀ front now back, later = front ++ .call now (.disconnect connection) :: back →
      endsAmong connection (robot.reports front) = []) :
    Ending (robot.after later) connection (robot.reports later)
      ((requests connection later).getLastD first) := by
  induction later using List.reverseRecOn with
  | nil => exact asked
  | append_singleton later act ih =>
    have ending := ih (fun now member => unclosed now (List.mem_append_left _ member))
      fun front now back split => early front now (back ++ [act]) (by simp [split])
    rw [after_snoc, reports_snoc]
    by_cases request : ∃ now, act = .call now (.disconnect connection)
    · obtain ⟨now, rfl⟩ := request
      have unreported := early later now [] rfl
      rw [requests_request, List.getLastD_concat]
      refine ending_of_request (sound later) ending.known ?_ now
      rw [Simulator.act, List.append_nil, unreported]
    · have spares : act.Spares connection := by
        cases act with
        | call now made =>
          refine ⟨?_, ?_⟩
          · rintro rfl
            exact request ⟨now, rfl⟩
          · rintro rfl
            exact unclosed now (by simp)
        | _ => trivial
      rw [requests_spared later spares]
      exact ending.spared (sound later) spares

theorem after_append (robot : Simulator) (acts more : List Act) :
    robot.after (acts ++ more) = (robot.after acts).after more := List.foldl_append

/--
A connection that the robot knows is asked to end, and then anything may happen except that it is closed,
with any number of further requests as long as the end has not come. What has come of the end and what is
to come of it are together exactly one report, due a latency after the last request and not after the
first. Every further request drops all that is under way on the connection and puts the end a latency
after itself, so while the end has not come it changes what is under way unless it is made at the very
time of the last one.
-/
theorem end_follows_last_request {settings : Settings} {robot : Simulator}
    (built : ofSettings settings = .ok robot) (before later : List Act) (first : Nat)
    (connection : Connection) :
    let asked := robot.after (before ++ [.call first (.disconnect connection)])
    let last := (requests connection later).getLastD first
    let latency := settings.simulator.connectLatency
    (robot.after before).isKnown connection = true →
    (∀ now, .call now (.close connection) ∉ later) →
    (∀ front now back, later = front ++ .call now (.disconnect connection) :: back →
      endsAmong connection (asked.reports front) = []) →
    endsAmong connection (asked.reports later) ++ (asked.after later).scheduledEnds connection =
        [(last + latency, .disconnected connection Transport.success)] ∧
      ∀ now,
        ((asked.after later).perform now (.disconnect connection)).jobsOf connection =
            [⟨now + latency, .deliver connection (.disconnected connection Transport.success)⟩] ∧
          (endsAmong connection (asked.reports later) = [] →
            ((asked.after later).perform now (.disconnect connection)).jobsOf connection =
              (asked.after later).jobsOf connection → now = last) := by
  intro asked last latency known unclosed early
  have sound (acts : List Act) : (asked.after acts).Sound := by
    rw [← after_append]
    exact after_sound built _
  have begun : Ending asked connection [] first := by
    rw [show asked = _ from after_snoc robot before _]
    exact ending_of_request (after_sound built before) known rfl first
  have ending := run_ending sound begun unclosed early
  have latencies : (asked.after later).settings.connectLatency = latency := by
    rw [after_settings, after_settings, eq_of_ofSettings built]
  have ends := ending.ends
  rw [latencies] at ends
  refine ⟨ends, fun now => ?_⟩
  have again := jobsOf_disconnect ending.known now
  rw [latencies] at again
  refine ⟨again, fun unreported unchanged => ?_⟩
  rw [unreported, List.nil_append, (sound later).owned.scheduledEnds_eq, ← unchanged, again] at ends
  simpa [Job.end?, Task.event?, endOf, last] using ends

def joined : List Act := [.call 0 (.connect ⟨robotAddress, robotName⟩ (.ok 1)), .job 0]

def askedAgain : List Act :=
  [.call 110 (.disconnect 1), .powerOff 120, .call 125 (.disconnect 1), .job 0]

theorem askedAgain_early (robot : Simulator)
    (quiet : ∀ front ∈ [[], askedAgain.take 2], endsAmong 1 (robot.reports front) = [])
    (front : List Act) (now : Nat) (back : List Act)
    (split : askedAgain = front ++ .call now (.disconnect 1) :: back) :
    endsAmong 1 (robot.reports front) = [] := by
  rcases front with _ | ⟨one, _ | ⟨two, _ | ⟨three, _ | ⟨four, rest⟩⟩⟩⟩
  all_goals simp [askedAgain] at split
  · exact quiet [] (by simp)
  · obtain ⟨rfl, rfl, -⟩ := split
    exact quiet _ (by simp [askedAgain])

theorem askedAgain_puts_off :
    ∃ robot, ofSettings {} = .ok robot ∧ (robot.after joined).isKnown 1 = true ∧
      endsAmong 1 ((robot.after (joined ++ [.call 100 (.disconnect 1)])).reports askedAgain) =
        [(125 + 30, .disconnected 1 Transport.success)] := by
  obtain ⟨robot, built⟩ : ∃ robot, ofSettings {} = .ok robot := ⟨_, rfl⟩
  refine ⟨robot, built, ?_⟩
  have usual := eq_of_ofSettings built
  have known : (robot.after joined).isKnown 1 = true := by
    rw [usual]
    decide
  have follows := (end_follows_last_request built joined askedAgain 100 1 known (by simp [askedAgain])
    (askedAgain_early _ (by rw [usual]; decide))).1
  have delivered : ((robot.after (joined ++ [.call 100 (.disconnect 1)])).after
      askedAgain).scheduledEnds 1 = [] := by
    rw [usual]
    decide
  rw [delivered, List.append_nil] at follows
  exact ⟨known, follows⟩

/-- The second request puts off the end that the first one had brought under way. -/
theorem askedTwice_changes_end :
    ∃ robot, ofSettings {} = .ok robot ∧
      let once := robot.after (joined ++ [.call 100 (.disconnect 1)])
      once.isKnown 1 = true ∧
        once.jobsOf 1 = [⟨100 + 30, .deliver 1 (.disconnected 1 Transport.success)⟩] ∧
        (once.perform 110 (.disconnect 1)).jobsOf 1 ≠ once.jobsOf 1 ∧
        once.reports [.call 110 (.disconnect 1), .job 0] =
          [(110 + 30, .disconnected 1 Transport.success)] := by
  obtain ⟨robot, built⟩ : ∃ robot, ofSettings {} = .ok robot := ⟨_, rfl⟩
  refine ⟨robot, built, ?_⟩
  rw [eq_of_ofSettings built]
  decide

end Simulator
end SpinnerRemote.Robot
