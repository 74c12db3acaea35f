import SpinnerRemote.Link.Machine
import SpinnerRemote.Proofs.Splits

/-!
Runs of the link machine. A radio is given by what it would answer while each event is handled, so a list
of events with such answers is a run over some radio, and every run over any radio is such a list. What
a run did is kept as its history: every event together with the machine that met it.
-/
namespace SpinnerRemote.Link

open Transport (Answers Call Connection)

/-- One event, and what the radio would answer while it is handled. -/
structure Moment where
  answers : Answers
  event : Event

/-- One moment of a run, and the machine that met it. -/
structure Turn where
  before : Machine
  moment : Moment

def Turn.step (turn : Turn) : Step := turn.before.handle turn.moment.answers turn.moment.event

def willing (connection : Connection) : Answers where
  permission := true
  startScan _ := .ok ()
  connect _ := .ok connection
  discoverServices _ := .ok ()
  enableNotification _ _ := true
  write _ _ _ := .ok ()

namespace Machine

def run (machine : Machine) (moments : List Moment) : Machine :=
  moments.foldl (fun machine moment => (Turn.mk machine moment).step.machine) machine

def history : Machine → List Moment → List Turn
  | _, [] => []
  | machine, moment :: rest => ⟨machine, moment⟩ :: history (Turn.mk machine moment).step.machine rest

def trace (machine : Machine) (moments : List Moment) : List Call :=
  (machine.history moments).flatMap (·.step.calls)

@[simp] theorem run_nil (machine : Machine) : machine.run [] = machine := rfl

theorem run_append (machine : Machine) (front back : List Moment) :
    machine.run (front ++ back) = (machine.run front).run back := List.foldl_append

theorem history_append (machine : Machine) (front back : List Moment) :
    machine.history (front ++ back) = machine.history front ++ (machine.run front).history back := by
  induction front generalizing machine with
  | nil => rfl
  | cons first rest ih => simpa [history, run] using ih (Turn.mk machine first).step.machine

theorem run_snoc (machine : Machine) (moments : List Moment) (moment : Moment) :
    machine.run (moments ++ [moment]) = (Turn.mk (machine.run moments) moment).step.machine := by
  simp [run]

theorem history_snoc (machine : Machine) (moments : List Moment) (moment : Moment) :
    machine.history (moments ++ [moment]) =
      machine.history moments ++ [⟨machine.run moments, moment⟩] := by
  induction moments generalizing machine with
  | nil => rfl
  | cons first rest ih => simpa [history, run] using ih (Turn.mk machine first).step.machine

theorem history_length (machine : Machine) (moments : List Moment) :
    (machine.history moments).length = moments.length := by
  induction moments generalizing machine with
  | nil => rfl
  | cons moment rest ih => exact congrArg Nat.succ (ih _)

theorem history_eq_append {machine : Machine} {moments : List Moment} {earlier later : List Turn}
    {turn : Turn} (split : machine.history moments = earlier ++ turn :: later) :
    ∃ front back, moments = front ++ turn.moment :: back ∧ machine.history front = earlier ∧
      machine.run front = turn.before := by
  induction earlier generalizing machine moments with
  | nil =>
    cases moments with
    | nil => cases split
    | cons moment rest =>
      obtain ⟨rfl, -⟩ := List.cons_eq_cons.mp split
      exact ⟨[], rest, rfl, rfl, rfl⟩
  | cons first earlier ih =>
    cases moments with
    | nil => cases split
    | cons moment rest =>
      obtain ⟨rfl, tail⟩ := List.cons_eq_cons.mp split
      obtain ⟨front, back, rfl, history, run⟩ := ih tail
      exact ⟨moment :: front, back, rfl, by rw [Machine.history, history], run⟩

theorem history_after {machine : Machine} {moments : List Moment} {earlier later : List Turn}
    {turn : Turn} (split : machine.history moments = earlier ++ turn :: later) :
    ∃ front back, moments = front ++ turn.moment :: back ∧ machine.history front = earlier ∧
      machine.run front = turn.before ∧ turn.step.machine.history back = later ∧
      turn.step.machine.run back = machine.run moments := by
  obtain ⟨front, back, rfl, before, reached⟩ := history_eq_append split
  refine ⟨front, back, rfl, before, reached, ?_, ?_⟩
  · rw [history_append, reached, before] at split
    exact (List.cons_eq_cons.mp (List.append_cancel_left split)).2
  · rw [run_append, reached]
    rfl

theorem trace_snoc (machine : Machine) (moments : List Moment) (moment : Moment) :
    machine.trace (moments ++ [moment]) =
      machine.trace moments ++ (Turn.mk (machine.run moments) moment).step.calls := by
  simp [trace, history_snoc]

end Machine
end SpinnerRemote.Link
