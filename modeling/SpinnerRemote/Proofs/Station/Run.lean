import Mathlib.Data.List.Perm.Basic
import SpinnerRemote.Proofs.Link.Numbering
import SpinnerRemote.Proofs.Robot.Simulator
import SpinnerRemote.Station

/-!
Runs of a station, in which requests, jobs, timers, the loss of the robot and the link's own work come in
any order and at any time; what the program does until a time is one of them.

A move either happens outside of the machine, which only brings events nearer to it, or has the machine
handle the event that has waited longest.
-/
namespace SpinnerRemote

open Transport (Call)
open Robot (Simulator isUnasked)
open scoped List

inductive Request where
  | scan
  | disconnect
  | send (frame : Frame)
  deriving DecidableEq, Repr

def Request.event : Request → Link.Event
  | .scan => .scan
  | .disconnect => .disconnect
  | .send frame => .send frame

inductive Move where
  | request (request : Request)
  | handle
  /-- A job of the robot is done, whenever it is due. -/
  | job (index : Nat)
  | timer (index : Nat)
  | powerOff
  | clock (now : Nat)
  deriving DecidableEq, Repr

def Move.isRequest : Move → Bool
  | .request _ => true
  | _ => false

def Link.Event.transport? : Link.Event → Option Transport.Event
  | .transport report => some report
  | _ => none

theorem Link.Event.transport?_eq_some {event : Link.Event} {report : Transport.Event} :
    event.transport? = some report ↔ event = .transport report := by
  cases event <;> simp [transport?]

namespace Station

def step (station : Station) : Move → Station
  | .request request => station.request request.event
  | .handle =>
    match station.queue with
    | [] => station
    | event :: rest => { station with queue := rest }.dispatch event
  | .job index => station.runJob index
  | .timer index => station.runTimer index
  | .powerOff => station.powerOff
  | .clock now => { station with now }

def run (station : Station) (moves : List Move) : Station := moves.foldl step station

/-- What the machine is given by a move, with the answers that the robot would give. -/
def moment? (station : Station) : Move → Option Link.Moment
  | .handle => station.queue.head?.map (⟨station.robot.answers, ·⟩)
  | _ => none

def moments (station : Station) : List Move → List Link.Moment
  | [] => []
  | move :: rest => (station.moment? move).toList ++ moments (station.step move) rest

def coming (station : Station) : List Transport.Event :=
  station.robot.scheduled ++ station.queue.filterMap (·.transport?)

def inFlight (station : Station) : List Link.TimerEvent :=
  station.timers.map (·.2) ++ station.queue.filterMap (·.timer?)

theorem run_append (station : Station) (moves more : List Move) :
    station.run (moves ++ more) = (station.run moves).run more := List.foldl_append

theorem run_snoc (station : Station) (moves : List Move) (move : Move) :
    station.run (moves ++ [move]) = (station.run moves).step move := by
  simp [run]

theorem moments_snoc (station : Station) (moves : List Move) (move : Move) :
    station.moments (moves ++ [move]) =
      station.moments moves ++ ((station.run moves).moment? move).toList := by
  induction moves generalizing station with
  | nil => simp [moments, run]
  | cons first rest ih => simp [moments, ih, run]

section Queue

variable {station : Station} {event : Link.Event} {rest : List Link.Event} {report : Transport.Event}

theorem mem_coming_of_queue (queued : station.queue = event :: rest) : report ∈ station.coming ↔
    report ∈ { station with queue := rest }.coming ∨ event = .transport report := by
  simp only [coming, queued, List.mem_append, List.mem_filterMap, List.exists_mem_cons_iff,
    Link.Event.transport?_eq_some]
  exact or_left_comm.trans or_comm

theorem coming_of_tail (queued : station.queue = event :: rest)
    (member : report ∈ { station with queue := rest }.coming) : report ∈ station.coming :=
  (mem_coming_of_queue queued).mpr (.inl member)

theorem coming_of_head (queued : station.queue = .transport report :: rest) : report ∈ station.coming :=
  (mem_coming_of_queue queued).mpr (.inr rfl)

end Queue

/-! The machine handles an event. -/

section Dispatch

variable (station : Station) (event : Link.Event)

def handling : Link.Step := station.machine.handle station.robot.answers event

@[simp] theorem settleResult_machine (result : Except Link.Error (Option Link.Timer)) :
    (station.settleResult result).machine = station.machine := by
  rcases result with error | _ | timer <;> rfl

@[simp] theorem settleResult_robot (result : Except Link.Error (Option Link.Timer)) :
    (station.settleResult result).robot = station.robot := by
  rcases result with error | _ | timer <;> rfl

@[simp] theorem settleResult_queue (result : Except Link.Error (Option Link.Timer)) :
    (station.settleResult result).queue = station.queue := by
  rcases result with error | _ | timer <;> rfl

@[simp] theorem settleResult_calls (result : Except Link.Error (Option Link.Timer)) :
    (station.settleResult result).calls = station.calls := by
  rcases result with error | _ | timer <;> rfl

theorem dispatch_machine : (station.dispatch event).machine = (station.handling event).machine := by
  simp only [dispatch, publish, settleResult_machine]
  rfl

theorem dispatch_robot : (station.dispatch event).robot =
    (station.handling event).calls.foldl (·.perform station.now ·) station.robot := by
  simp only [dispatch, publish, settleResult_robot]
  rfl

theorem dispatch_queue : (station.dispatch event).queue = station.queue := by
  simp only [dispatch, publish, settleResult_queue]
  rfl

theorem dispatch_calls : (station.dispatch event).calls.map (·.2) =
    station.calls.map (·.2) ++ (station.handling event).calls := by
  simp only [dispatch, publish, settleResult_calls, absorb, handling]
  simp [Function.comp_def]

theorem dispatch_timers : (station.dispatch event).timers.map (·.2) =
    station.timers.map (·.2) ++ (station.handling event).timer?.toList := by
  simp only [dispatch, publish, handling, Link.Step.timer?]
  generalize station.machine.handle station.robot.answers event = step
  rcases step with ⟨machine, calls, notices, events, result⟩
  rcases result with error | _ | timer <;> simp [settleResult, absorb]

theorem dispatch_robot_of_call {call : Call} (made : (station.handling event).calls = [call]) :
    (station.dispatch event).robot = station.robot.perform station.now call := by
  rw [dispatch_robot, made]
  rfl

theorem dispatch_robot_cases :
    (station.handling event).calls = [] ∧ (station.dispatch event).robot = station.robot ∨
      ∃ call, (station.handling event).calls = [call] ∧
        (station.dispatch event).robot = station.robot.perform station.now call := by
  have outcome := Link.handle_outcome station.machine station.robot.answers event
  rcases outcome.calls with none | ⟨call, made, -⟩
  · exact .inl ⟨none, by rw [dispatch_robot, handling, none]; rfl⟩
  · exact .inr ⟨call, made, station.dispatch_robot_of_call event made⟩

theorem scheduled_dispatch :
    ∃ kept, (station.dispatch event).robot.scheduled =
        kept ++ (station.handling event).calls.flatMap station.robot.starts ∧
      kept.Sublist station.robot.scheduled ∧
      ((∀ call ∈ (station.handling event).calls, Simulator.drops call = false) →
        kept = station.robot.scheduled) := by
  rcases station.dispatch_robot_cases event with ⟨none, same⟩ | ⟨call, one, after⟩
  · exact ⟨station.robot.scheduled, by simp [none, same], .refl _, fun _ => rfl⟩
  · obtain ⟨kept, whole, before, all⟩ := station.robot.scheduled_perform station.now call
    exact ⟨kept, by simp [one, after, whole], before, fun gentle => all (gentle call (by simp [one]))⟩

variable {station event} {report : Transport.Event}

theorem mem_coming_of_dispatch (member : report ∈ (station.dispatch event).coming) :
    report ∈ station.coming ∨
      ∃ call ∈ (station.handling event).calls, report ∈ station.robot.starts call := by
  obtain ⟨kept, whole, before, -⟩ := station.scheduled_dispatch event
  rw [coming, dispatch_queue, whole, List.mem_append, List.mem_append, List.mem_flatMap] at member
  rcases member with (earlier | started) | queued
  · exact .inl (List.mem_append_left _ (before.subset earlier))
  · exact .inr started
  · exact .inl (List.mem_append_right _ queued)

theorem coming_dispatch_of_mem (member : report ∈ station.coming)
    (gentle : ∀ call ∈ (station.handling event).calls, Simulator.drops call = false) :
    report ∈ (station.dispatch event).coming := by
  obtain ⟨kept, whole, -, all⟩ := station.scheduled_dispatch event
  rw [coming, dispatch_queue, whole, all gentle, List.mem_append]
  exact (List.mem_append.mp member).imp_left (List.mem_append_left _)

theorem coming_dispatch_of_starts {call : Call} (made : call ∈ (station.handling event).calls)
    (started : report ∈ station.robot.starts call) : report ∈ (station.dispatch event).coming := by
  obtain ⟨kept, whole, -⟩ := station.scheduled_dispatch event
  rw [coming, whole, List.mem_append, List.mem_append, List.mem_flatMap]
  exact .inl (.inr ⟨call, made, started⟩)

theorem mem_inFlight_dispatch {timer : Link.TimerEvent} :
    timer ∈ (station.dispatch event).inFlight ↔
      timer ∈ station.inFlight ∨ (station.handling event).timer? = some timer := by
  simp only [inFlight, dispatch_timers, dispatch_queue, List.mem_append, Option.mem_toList]
  exact or_right_comm

end Dispatch

/-! What a move can be. -/

/-- What happens outside of the machine: the machine is as it was, events come nearer to it and none gets
lost, and any other event that comes is an unasked report of the robot. -/
structure Outside (before after : Station) : Prop where
  machine : after.machine = before.machine
  calls : after.calls = before.calls
  robot : ∃ connection jobs, after.robot = { before.robot with connection, jobs }
  lossless : ∃ more, after.coming.Perm (before.coming ++ more) ∧ ∀ event ∈ more, isUnasked event = true
  inFlight : after.inFlight.Perm before.inFlight

variable {station : Station}

theorem Outside.refl (station : Station) : Outside station station :=
  ⟨rfl, rfl, ⟨_, _, rfl⟩, ⟨[], by simp, by simp⟩, .refl _⟩

theorem perm_append_right_comm {α : Type} (first second third : List α) :
    (first ++ second ++ third).Perm (first ++ third ++ second) := by
  simpa using List.perm_append_comm.append_left first

theorem coming_enqueue {robot : Simulator} {events more : List Transport.Event}
    (lossless : (robot.scheduled ++ events).Perm (station.robot.scheduled ++ more)) :
    ({ station with robot }.enqueue (events.map .transport)).coming.Perm (station.coming ++ more) := by
  have queued : (events.map Link.Event.transport).filterMap (·.transport?) = events := by
    simp [Link.Event.transport?, List.filterMap_map]
  simp only [coming, enqueue, List.filterMap_append, queued, ← List.append_assoc]
  calc
    _ ~ robot.scheduled ++ events ++ station.queue.filterMap (·.transport?) :=
      perm_append_right_comm _ _ _
    _ ~ station.robot.scheduled ++ more ++ station.queue.filterMap (·.transport?) :=
      lossless.append_right _
    _ ~ _ := perm_append_right_comm _ _ _

theorem outside_of_unprompted {robot : Simulator} {events : List Transport.Event}
    {records : List Log.Record} (unprompted : station.robot.Unprompted robot events) :
    Outside station ({ station with robot, records }.enqueue (events.map .transport)) := by
  obtain ⟨more, lossless, unasked⟩ := unprompted.lossless
  refine ⟨rfl, rfl, unprompted.same, ⟨more, coming_enqueue lossless, unasked⟩, ?_⟩
  simp [inFlight, enqueue, List.filterMap_map, Link.Event.timer?]

theorem runTimer_inFlight (station : Station) (index : Nat) :
    (station.runTimer index).inFlight.Perm station.inFlight := by
  unfold runTimer
  split
  next due timer found =>
    obtain ⟨inside, same⟩ := List.getElem?_eq_some_iff.mp found
    have set := (List.getElem_cons_eraseIdx_perm inside).map (·.2)
    rw [same, List.map_cons] at set
    -- The timer goes from those that are set to the end of the queue.
    simp only [inFlight, enqueue, List.filterMap_append]
    calc
      _ ~ (station.timers.eraseIdx index).map (·.2) ++ [timer] ++
          station.queue.filterMap (·.timer?) := by
        rw [← List.append_assoc]
        exact perm_append_right_comm _ _ _
      _ ~ _ := (List.perm_append_singleton _ _).trans set |>.append_right _
  next => exact .refl _

theorem outside_of_runTimer (station : Station) (index : Nat) :
    Outside station (station.runTimer index) := by
  have inFlight := station.runTimer_inFlight index
  unfold runTimer at inFlight ⊢
  split at inFlight
  · refine ⟨rfl, rfl, ⟨_, _, rfl⟩, ⟨[], ?_, by simp⟩, inFlight⟩
    simp [coming, enqueue, Link.Event.transport?]
  · exact .refl station

theorem outside_of_request (station : Station) (request : Request) :
    Outside station (station.request request.event) := by
  refine ⟨rfl, rfl, ⟨_, _, rfl⟩, ⟨[], ?_, by simp⟩, ?_⟩
  · cases request <;> simp [Station.request, coming, enqueue, Request.event, Link.Event.transport?]
  · cases request <;> simp [Station.request, inFlight, enqueue, Request.event, Link.Event.timer?]

/-- A move happens outside of the machine, unless the machine handles what has waited longest. -/
theorem step_cases (station : Station) (move : Move) :
    station.moment? move = none ∧ Outside station (station.step move) ∨
      ∃ event rest, station.queue = event :: rest ∧
        station.moment? move = some ⟨station.robot.answers, event⟩ ∧
        station.step move = { station with queue := rest }.dispatch event := by
  cases move with
  | request request => exact .inl ⟨rfl, station.outside_of_request request⟩
  | handle =>
    cases waiting : station.queue with
    | nil => exact .inl ⟨by simp [moment?, waiting], by simpa [step, waiting] using Outside.refl station⟩
    | cons event rest =>
      exact .inr ⟨event, rest, rfl, by simp [moment?, waiting], by simp [step, waiting]⟩
  | job index =>
    exact .inl ⟨rfl, outside_of_unprompted (station.robot.runJob_unprompted station.now index)⟩
  | timer index => exact .inl ⟨rfl, station.outside_of_runTimer index⟩
  | powerOff => exact .inl ⟨rfl, outside_of_unprompted station.robot.powerOff_unprompted⟩
  | clock now => exact .inl ⟨rfl, rfl, rfl, ⟨_, _, rfl⟩, ⟨[], by simp [step, coming], by simp⟩, .refl _⟩

/-! The run of the machine within a run of the station. -/

theorem run_machine (station : Station) (moves : List Move) :
    (station.run moves).machine = station.machine.run (station.moments moves) := by
  induction moves using List.reverseRecOn with
  | nil => rfl
  | append_singleton moves move ih =>
    rw [run_snoc, moments_snoc]
    rcases step_cases (station.run moves) move with ⟨none, outside⟩ | ⟨event, rest, -, some, after⟩
    · rw [none, Option.toList_none, List.append_nil, outside.machine, ih]
    · rw [some, Option.toList_some, Link.Machine.run_snoc, after, dispatch_machine, ← ih]
      rfl

theorem exists_handling_of_calls {station : Station} {moves : List Move} {call : Call}
    (made : call ∈ (station.run moves).calls.map (·.2)) : call ∈ station.calls.map (·.2) ∨
      ∃ earlier event, earlier <+: moves ∧ call ∈ ((station.run earlier).handling event).calls := by
  induction moves using List.reverseRecOn with
  | nil => exact .inl made
  | append_singleton moves move ih =>
    have before (member : call ∈ (station.run moves).calls.map (·.2)) :
        call ∈ station.calls.map (·.2) ∨
          ∃ earlier event, earlier <+: moves ++ [move] ∧
            call ∈ ((station.run earlier).handling event).calls := by
      refine (ih member).imp_right ?_
      rintro ⟨earlier, event, front, made⟩
      exact ⟨earlier, event, front.trans (List.prefix_append _ _), made⟩
    rw [run_snoc] at made
    rcases step_cases (station.run moves) move with ⟨-, outside⟩ | ⟨event, rest, -, -, after⟩
    · rw [outside.calls] at made
      exact before made
    · rw [after, dispatch_calls, List.mem_append] at made
      rcases made with earlier | now
      · exact before earlier
      · exact .inr ⟨moves, event, List.prefix_append _ _, now⟩

/-! What the program does until a time is a run. -/

theorem dispatch_of_queue (station : Station) (queue : List Link.Event) (event : Link.Event) :
    { station with queue }.dispatch event = { station.dispatch event with queue } := by
  simp only [dispatch]
  generalize station.machine.handle station.robot.answers event = step
  rcases step with ⟨machine, calls, notices, events, result⟩
  rcases result with error | _ | timer <;> rfl

theorem foldl_dispatch_eq_run (station : Station) (queue : List Link.Event) :
    queue.foldl dispatch { station with queue := [] } =
      { station with queue }.run (.replicate queue.length .handle) := by
  induction queue generalizing station with
  | nil => rfl
  | cons event rest ih =>
    have first : { station with queue := event :: rest }.step .handle =
        { station.dispatch event with queue := rest } := station.dispatch_of_queue rest event
    calc
      _ = rest.foldl dispatch { station.dispatch event with queue := [] } := by
        rw [List.foldl_cons, dispatch_of_queue]
      _ = { station.dispatch event with queue := rest }.run (.replicate rest.length .handle) := ih _
      _ = _ := by
        rw [← first]
        rfl

theorem settle_eq_run (station : Station) :
    station.settle = station.run (.replicate station.queue.length .handle) :=
  station.foldl_dispatch_eq_run station.queue

theorem runDue_eq_run (station : Station) (due : Nat) :
    ∃ moves, station.runDue due = station.run moves ∧ ∀ move ∈ moves, move.isRequest = false := by
  simp only [runDue]
  split
  next job _ => exact ⟨[.clock (max station.now due), .job job], rfl, by simp [Move.isRequest]⟩
  next =>
    exact ⟨[.clock (max station.now due), .timer (station.timers.findIdx (·.1 == due))], rfl,
      by simp [Move.isRequest]⟩

theorem advanceWithin_eq_run (limit steps : Nat) (station : Station) :
    ∃ moves, advanceWithin limit steps station = station.run moves ∧
      ∀ move ∈ moves, move.isRequest = false := by
  induction steps generalizing station with
  | zero => exact ⟨[], rfl, by simp⟩
  | succ steps ih =>
    have settled : ∀ move ∈ List.replicate station.queue.length Move.handle, move.isRequest = false := by
      simp [Move.isRequest]
    simp only [advanceWithin, settle_eq_run]
    split
    next due _ =>
      split
      · obtain ⟨first, ran, unasked⟩ :=
          runDue_eq_run (station.run (.replicate station.queue.length .handle)) due
        obtain ⟨rest, advanced, unasked'⟩ := ih _
        refine ⟨_, by rw [advanced, ran, ← run_append, ← run_append], ?_⟩
        exact List.forall_mem_append.mpr ⟨settled, List.forall_mem_append.mpr ⟨unasked, unasked'⟩⟩
      · exact ⟨_, rfl, settled⟩
    next => exact ⟨_, rfl, settled⟩

/-- The program's own order, each job and timer at its time and requests handled at once, is that of a run.
No request is made in it. -/
theorem advance_eq_run (station : Station) (limit : Nat) :
    ∃ moves, station.advance limit = station.run moves ∧ ∀ move ∈ moves, move.isRequest = false := by
  obtain ⟨moves, advanced, unasked⟩ := advanceWithin_eq_run limit
    ((limit + 2 - station.now) * (station.dues.length + station.queue.length + 40)) station
  let rest : List Move := .replicate (station.run moves).queue.length .handle
  refine ⟨moves ++ rest ++ [.clock (max station.now limit)], ?_, ?_⟩
  · rw [run_snoc, run_append, ← settle_eq_run, ← advanced]
    rfl
  · simpa [rest, List.forall_mem_append, or_imp, forall_and, Move.isRequest] using unasked

end Station
end SpinnerRemote
