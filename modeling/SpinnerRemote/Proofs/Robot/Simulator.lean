import Mathlib.Data.List.Perm.Basic
import SpinnerRemote.Robot.Simulator

/-!
What a call does to the simulated robot: to the connections it knows, to the frames it took, and to the
events that are scheduled. The rest of the robot stays as it is. A job that is done and the loss of power
change no more than what is scheduled and which connection is up, and lose no scheduled event.
-/
namespace SpinnerRemote.Robot

open Transport (Call Characteristic Connection Peripheral)

/-- What the robot reports of its own accord. -/
def isUnasked : Transport.Event → Bool
  | .discovered _ => true
  | .disconnected _ _ => true
  | .notification _ _ _ => true
  | _ => false

def isRoutine : Transport.Event → Bool
  | .discovered _ => true
  | .notification _ _ _ => true
  | _ => false

theorem isUnasked_of_isRoutine {event : Transport.Event} (routine : isRoutine event = true) :
    isUnasked event = true := by
  cases event <;> first | rfl | cases routine

def Task.event? : Task → Option Transport.Event
  | .deliver _ event => some event
  | _ => none

namespace Simulator

def scheduled (robot : Simulator) : List Transport.Event := robot.jobs.filterMap (·.task.event?)

def starts (robot : Simulator) : Call → List Transport.Event
  | .connect _ (.ok _) => [.connected robot.nextConnection Transport.success]
  | .discoverServices connection (.ok _) => [.services connection Transport.success robot.services]
  | .write connection characteristic bytes (.ok _) =>
    [.written connection characteristic.uuid (robot.takeFrame bytes).2]
  | .disconnect connection =>
    if robot.isKnown connection then [.disconnected connection Transport.success] else []
  | _ => []

def drops : Call → Bool
  | .disconnect _ => true
  | .close _ => true
  | _ => false

def brings? : Call → Option Frame
  | .write _ _ bytes (.ok _) => (Frame.decode bytes).toOption
  | _ => none

def knownAfter (robot : Simulator) : Call → List Connection
  | .connect _ (.ok _) => robot.known ++ [robot.nextConnection]
  | .close connection => robot.known.filter (· != connection)
  | _ => robot.known

def connectionAfter (robot : Simulator) : Call → Option Connection
  | .connect _ (.ok _) => some robot.nextConnection
  | .disconnect connection =>
    if robot.isKnown connection ∧ robot.connection = some connection then none else robot.connection
  | _ => robot.connection

def nextAfter (robot : Simulator) : Call → Connection
  | .connect _ (.ok _) => robot.nextConnection + 1
  | _ => robot.nextConnection

variable (robot : Simulator) (now : Nat) (call : Call)

@[simp] theorem scheduled_addJob (due : Nat) (task : Task) :
    (robot.addJob due task).scheduled = robot.scheduled ++ task.event?.toList := by
  cases deliver : task.event? <;> simp [scheduled, addJob, deliver]

@[simp] theorem scheduled_addAdvertising (peripherals : List Peripheral) :
    (robot.addAdvertising now peripherals).scheduled = robot.scheduled := by
  cases peripherals with
  | nil => rfl
  | cons => simp [addAdvertising, Task.event?]

theorem scheduled_dropJobs (drop : Task → Bool) :
    (robot.dropJobs drop).scheduled.Sublist robot.scheduled :=
  List.filter_sublist.filterMap _

theorem scheduled_dropScans : (robot.dropJobs Task.isScan).scheduled = robot.scheduled := by
  have none : ∀ job : Job, (if !job.task.isScan then job.task.event? else none) = job.task.event? := by
    rintro ⟨due, _ | _ | _⟩ <;> rfl
  simp only [scheduled, dropJobs, List.filterMap_filter, none]

@[simp] theorem takeFrame_jobs (bytes : List UInt8) : (robot.takeFrame bytes).1.jobs = robot.jobs := by
  unfold takeFrame
  split <;> rfl

@[simp] theorem scheduled_takeFrame (bytes : List UInt8) :
    (robot.takeFrame bytes).1.scheduled = robot.scheduled := by
  rw [scheduled, takeFrame_jobs, scheduled]

/-- What is scheduled after a call: what it schedules, and of what was scheduled before everything unless
the call drops some. -/
theorem scheduled_perform :
    ∃ kept, (robot.perform now call).scheduled = kept ++ robot.starts call ∧
      kept.Sublist robot.scheduled ∧ (drops call = false → kept = robot.scheduled) := by
  have whole (same : (robot.perform now call).scheduled = robot.scheduled ++ robot.starts call) :
      ∃ kept, (robot.perform now call).scheduled = kept ++ robot.starts call ∧
        kept.Sublist robot.scheduled ∧ (drops call = false → kept = robot.scheduled) :=
    ⟨robot.scheduled, same, .refl _, fun _ => rfl⟩
  cases call with
  | startScan name answer =>
    cases answer <;> exact whole (by simp [perform, startScan, scheduled_dropScans, starts])
  | stopScan => exact whole (by simp [perform, stopScan, scheduled_dropScans, starts])
  | connect peripheral answer =>
    cases answer with
    | error => exact whole (by simp [perform, starts])
    | ok =>
      refine whole ?_
      simp only [perform, connect, deliver, scheduled_addJob, Task.event?]
      rfl
  | discoverServices connection answer =>
    cases answer <;> exact whole (by simp [perform, discoverServices, deliver, starts, Task.event?])
  | enableNotification connection characteristic accepted =>
    cases accepted <;> exact whole (by simp [perform, enableNotification, starts, Task.event?])
  | write connection characteristic bytes answer =>
    cases answer <;> exact whole (by simp [perform, write, deliver, starts, Task.event?])
  | disconnect connection =>
    by_cases known : robot.isKnown connection
    · refine ⟨(robot.dropJobs (Task.isOf connection)).scheduled, ?_, scheduled_dropJobs robot _,
        by simp [drops]⟩
      simp only [perform, disconnect, known, if_true, starts, deliver, scheduled_addJob, Task.event?]
      rfl
    · exact whole (by simp [perform, disconnect, starts, known])
  | close connection =>
    refine ⟨(robot.dropJobs (Task.isOf connection)).scheduled, ?_, scheduled_dropJobs robot _,
      by simp [drops]⟩
    simp only [perform, close, starts, List.append_nil]
    rfl

theorem perform_eq :
    ∃ connection nextConnection jobs, robot.perform now call =
      { robot with
        lastFrame := (brings? call).or robot.lastFrame
        framesReceived := robot.framesReceived + (brings? call).toList.length
        known := robot.knownAfter call
        connection, nextConnection, jobs } := by
  cases call with
  | startScan name answer =>
    cases answer with
    | error => exact ⟨_, _, _, rfl⟩
    | ok =>
      simp only [perform, startScan]
      cases robot.visible (some name) <;> exact ⟨_, _, _, rfl⟩
  | connect peripheral answer | discoverServices connection answer => cases answer <;> exact ⟨_, _, _, rfl⟩
  | enableNotification connection characteristic accepted => cases accepted <;> exact ⟨_, _, _, rfl⟩
  | write connection characteristic bytes answer =>
    cases answer with
    | error => exact ⟨_, _, _, rfl⟩
    | ok =>
      simp only [perform, write, takeFrame, brings?]
      cases Frame.decode bytes <;> exact ⟨_, _, _, rfl⟩
  | disconnect connection =>
    simp only [perform, disconnect]
    split <;> exact ⟨_, _, _, rfl⟩
  | stopScan | close connection => exact ⟨_, _, _, rfl⟩

@[simp] theorem perform_settings : (robot.perform now call).settings = robot.settings := by
  obtain ⟨_, _, _, same⟩ := robot.perform_eq now call
  rw [same]

@[simp] theorem perform_services : (robot.perform now call).services = robot.services := by
  obtain ⟨_, _, _, same⟩ := robot.perform_eq now call
  rw [same]
  rfl

@[simp] theorem perform_config : (robot.perform now call).config = robot.config := by
  obtain ⟨_, _, _, same⟩ := robot.perform_eq now call
  rw [same]

@[simp] theorem perform_known : (robot.perform now call).known = robot.knownAfter call := by
  obtain ⟨_, _, _, same⟩ := robot.perform_eq now call
  rw [same]

theorem addAdvertising_eq (peripherals : List Peripheral) :
    ∃ jobs, robot.addAdvertising now peripherals = { robot with jobs } := by
  cases peripherals <;> exact ⟨_, rfl⟩

theorem takeFrame_eq (bytes : List UInt8) :
    ∃ lastFrame framesReceived, (robot.takeFrame bytes).1 = { robot with lastFrame, framesReceived } := by
  unfold takeFrame
  cases Frame.decode bytes <;> exact ⟨_, _, rfl⟩

theorem perform_connections : (robot.perform now call).connection = robot.connectionAfter call ∧
    (robot.perform now call).nextConnection = robot.nextAfter call := by
  cases call with
  | startScan name answer =>
    cases answer with
    | error => exact ⟨rfl, rfl⟩
    | ok =>
      obtain ⟨jobs, same⟩ := (robot.dropJobs Task.isScan).addAdvertising_eq now (robot.visible (some name))
      simp only [perform, startScan, same]
      exact ⟨rfl, rfl⟩
  | connect peripheral answer | discoverServices connection answer => cases answer <;> exact ⟨rfl, rfl⟩
  | enableNotification connection characteristic accepted => cases accepted <;> exact ⟨rfl, rfl⟩
  | write connection characteristic bytes answer =>
    cases answer with
    | error => exact ⟨rfl, rfl⟩
    | ok =>
      obtain ⟨lastFrame, framesReceived, same⟩ := robot.takeFrame_eq bytes
      simp only [perform, write, same]
      exact ⟨rfl, rfl⟩
  | disconnect connection =>
    cases known : robot.isKnown connection with
    | false => simp [perform, disconnect, connectionAfter, nextAfter, known]
    | true =>
      simp only [perform, disconnect, connectionAfter, nextAfter, known, if_true, true_and]
      exact ⟨rfl, rfl⟩
  | stopScan | close connection => exact ⟨rfl, rfl⟩

theorem perform_lastFrame :
    (robot.perform now call).lastFrame = (brings? call).or robot.lastFrame := by
  obtain ⟨_, _, _, same⟩ := robot.perform_eq now call
  rw [same]

theorem perform_framesReceived : (robot.perform now call).framesReceived =
    robot.framesReceived + (brings? call).toList.length := by
  obtain ⟨_, _, _, same⟩ := robot.perform_eq now call
  rw [same]

theorem eq_of_ofSettings {settings : Settings} {robot : Simulator}
    (built : ofSettings settings = .ok robot) :
    robot =
      { settings := settings.simulator
        deviceName := settings.deviceName
        service := settings.service
        telemetry := settings.telemetry
        config := settings.config } := by
  unfold ofSettings at built
  split at built <;> cases built
  rfl

/-! What happens to the robot without a call. -/

/-- The robot afterwards, and the events that come of it: those that were scheduled are still scheduled or
come now, and any other is an unasked report. -/
structure Unprompted (before after : Simulator) (events : List Transport.Event) : Prop where
  same : ∃ connection jobs, after = { before with connection, jobs }
  lossless : ∃ more, (after.scheduled ++ events).Perm (before.scheduled ++ more) ∧
    ∀ event ∈ more, isUnasked event = true

theorem run_lossless (task : Task) :
    (∃ jobs, (robot.run now task).1 = { robot with jobs }) ∧
      ∃ more, ((robot.run now task).1.scheduled ++ [(robot.run now task).2]).Perm
        (task.event?.toList ++ robot.scheduled ++ more) ∧ ∀ event ∈ more, isRoutine event = true := by
  cases task with
  | advertise first rest =>
    exact ⟨robot.addAdvertising_eq now rest, [.discovered first],
      by simp [Simulator.run, Task.event?], by simp [isRoutine]⟩
  | deliver connection event => exact ⟨⟨_, rfl⟩, [], by simp [Simulator.run, Task.event?], by simp⟩
  | report connection characteristic =>
    exact ⟨⟨_, rfl⟩, [.notification connection characteristic robot.telemetryBytes],
      by simp [Simulator.run, Task.event?], by simp [isRoutine]⟩

theorem runJob_eq (index : Nat) : ∃ jobs, (robot.runJob now index).1 = { robot with jobs } := by
  unfold runJob
  split
  next job _ =>
    obtain ⟨⟨jobs, after⟩, -⟩ := run_lossless { robot with jobs := robot.jobs.eraseIdx index } now job.task
    exact ⟨jobs, after⟩
  next => exact ⟨_, rfl⟩

theorem runJob_lossless (index : Nat) :
    ∃ more, ((robot.runJob now index).1.scheduled ++ (robot.runJob now index).2).Perm
      (robot.scheduled ++ more) ∧ ∀ event ∈ more, isRoutine event = true := by
  unfold runJob
  split
  next job found =>
    obtain ⟨inside, same⟩ := List.getElem?_eq_some_iff.mp found
    have whole := (List.getElem_cons_eraseIdx_perm inside).filterMap (·.task.event?)
    rw [same] at whole
    have taken : (job.task.event?.toList ++
        { robot with jobs := robot.jobs.eraseIdx index }.scheduled).Perm robot.scheduled := by
      cases event : job.task.event? <;> simpa [event, scheduled] using whole
    obtain ⟨-, more, lossless, routine⟩ :=
      run_lossless { robot with jobs := robot.jobs.eraseIdx index } now job.task
    exact ⟨more, lossless.trans (taken.append_right _), routine⟩
  next => exact ⟨[], by simp, by simp⟩

theorem runJob_unprompted (index : Nat) :
    Unprompted robot (robot.runJob now index).1 (robot.runJob now index).2 := by
  obtain ⟨jobs, same⟩ := robot.runJob_eq now index
  obtain ⟨more, lossless, routine⟩ := robot.runJob_lossless now index
  exact ⟨⟨_, jobs, same⟩, more, lossless, fun event member => isUnasked_of_isRoutine (routine event member)⟩

theorem powerOff_unprompted : Unprompted robot robot.powerOff.1 robot.powerOff.2 := by
  unfold powerOff
  split
  next connection held => exact ⟨⟨_, _, rfl⟩, [_], .refl _, by simp [isUnasked]⟩
  next => exact ⟨⟨_, _, rfl⟩, [], .refl _, by simp⟩

end Simulator
end SpinnerRemote.Robot
