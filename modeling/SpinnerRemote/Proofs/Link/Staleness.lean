import SpinnerRemote.Proofs.Link.Outcome
import SpinnerRemote.Proofs.Link.Run

/-!
Stale events. A report or a timer of an earlier scan, attempt or connection may still arrive; a run without
such events is compared with the run that meets them. Both are over one radio, whose answers may depend on
what is called on it and on what goes on around it, but not on events that cause no call.
-/
namespace SpinnerRemote.Link

open Transport (Answers Call)

/-- What a radio answers, as things stand around it and after the calls that were made on it. -/
abbrev Radio (World : Type) := World → List Call → Answers

/-- An event, and how things stand around the radio while it is handled. -/
structure Occasion (World : Type) where
  world : World
  event : Event

def Phase.isSettling (phase : Phase) (attempt : Nat) : Bool :=
  match phase with
  | .connecting current _ none => current = attempt
  | _ => false

def Phase.isDiscovering (phase : Phase) (attempt : Nat) : Bool :=
  match phase with
  | .discovering current _ _ _ => current = attempt
  | _ => false

namespace Machine

def isStale (machine : Machine) : Event → Bool
  | .timer (.scanTimedOut scan) => machine.scanner.active ≠ some scan
  | .timer (.connectSettled attempt) => !machine.phase.isSettling attempt
  | .timer (.discoveryTimedOut attempt) => !machine.phase.isDiscovering attempt
  | .transport (.discovered peripheral) =>
    machine.phase ≠ .scanning ∨ peripheral.name ≠ machine.scanner.target
  | .transport event => machine.phase.connection? ≠ event.connection?
  | _ => false

variable {World : Type} (radio : Radio World)

/-- What a machine meets over a radio on which these calls were made already. -/
def moments (machine : Machine) (calls : List Call) : List (Occasion World) → List Moment
  | [] => []
  | occasion :: rest =>
    let turn : Turn := ⟨machine, radio occasion.world calls, occasion.event⟩
    turn.moment :: moments turn.step.machine (calls ++ turn.step.calls) rest

/-- The occasions without those whose events are stale when they are handled. -/
def withoutStale (machine : Machine) (calls : List Call) :
    List (Occasion World) → List (Occasion World)
  | [] => []
  | occasion :: rest =>
    let turn : Turn := ⟨machine, radio occasion.world calls, occasion.event⟩
    let kept := withoutStale turn.step.machine (calls ++ turn.step.calls) rest
    if machine.isStale occasion.event then kept else occasion :: kept

def sift (machine : Machine) : List Moment → List Moment
  | [] => []
  | moment :: rest =>
    let kept := sift (Turn.mk machine moment).step.machine rest
    if machine.isStale moment.event then kept else moment :: kept

def told (machine : Machine) (moments : List Moment) : List AppEvent :=
  (machine.history moments).flatMap (·.step.events)

end Machine

def Turn.isStale (turn : Turn) : Bool := turn.before.isStale turn.moment.event

variable {machine : Machine} {answers : Answers} {event : Event} {step : Step}

theorem Outcome.stay_of_stale (outcome : Outcome machine answers event step)
    (stale : machine.isStale event = true) : step = machine.stay := by
  cases outcome with
  | ignored => rfl
  | scanForbidden | scanRefused | scanStarted | scanStopped | disconnectRequested | wrote | writeRefused =>
    cases stale
  | scanExpired active => simp [Machine.isStale, active] at stale
  | connectForbidden settling | connectAccepted settling | connectRefused settling =>
    simp [Machine.isStale, settling, Phase.isSettling] at stale
  | discoveryExpired discovering => simp [Machine.isStale, discovering, Phase.isDiscovering] at stale
  | found scanning target =>
    simp [Machine.isStale, scanning, Scanner.isTarget_iff.mp target] at stale
  | connected phase | servicesFailed phase | searchedWithoutTelemetry phase | searched phase
  | becameReady phase | written phase | measured phase =>
    simp [Machine.isStale, phase, Phase.connection?, Transport.Event.connection?] at stale
  | disconnected held => simp [Machine.isStale, held, Transport.Event.connection?] at stale

theorem Turn.step_of_stale (turn : Turn) (stale : turn.isStale = true) : turn.step = turn.before.stay :=
  (handle_outcome turn.before turn.moment.answers turn.moment.event).stay_of_stale stale

namespace Machine

variable {World : Type} (radio : Radio World)

/-- Without its stale events a radio's run meets the same answers: no call was made that could have
changed them. -/
theorem moments_withoutStale (machine : Machine) (calls : List Call) (occasions : List (Occasion World)) :
    machine.moments radio calls (machine.withoutStale radio calls occasions) =
      machine.sift (machine.moments radio calls occasions) := by
  induction occasions generalizing machine calls with
  | nil => rfl
  | cons occasion rest ih =>
    have next := ih (Turn.mk machine ⟨radio occasion.world calls, occasion.event⟩).step.machine
      (calls ++ (Turn.mk machine ⟨radio occasion.world calls, occasion.event⟩).step.calls)
    unfold withoutStale
    cases stale : machine.isStale occasion.event with
    | true =>
      have stays := Turn.step_of_stale ⟨machine, radio occasion.world calls, occasion.event⟩ stale
      simp only [stays, stay, List.append_nil] at next
      simp [moments, sift, stale, stays, stay, next]
    | false => simp [moments, sift, stale, next]

theorem history_sift (machine : Machine) (moments : List Moment) :
    machine.history (machine.sift moments) = (machine.history moments).filter (!·.isStale) := by
  induction moments generalizing machine with
  | nil => rfl
  | cons moment rest ih =>
    have next := ih (Turn.mk machine moment).step.machine
    unfold sift
    cases stale : machine.isStale moment.event with
    | true =>
      have stays := Turn.step_of_stale ⟨machine, moment⟩ stale
      simp only [stays, stay] at next
      simp [history, stale, stays, stay, next, Turn.isStale]
    | false => simp [history, stale, next, Turn.isStale]

theorem run_sift (machine : Machine) (moments : List Moment) :
    machine.run (machine.sift moments) = machine.run moments := by
  induction moments generalizing machine with
  | nil => rfl
  | cons moment rest ih =>
    have next := ih (Turn.mk machine moment).step.machine
    unfold sift
    cases stale : machine.isStale moment.event with
    | true =>
      have stays := Turn.step_of_stale ⟨machine, moment⟩ stale
      simp only [stays, stay] at next
      simpa [run, stale, stays, stay] using next
    | false => simpa [run, stale] using next

end Machine

theorem flatMap_unstale {α : Type} (view : Step → List α) (silent : ∀ machine, view (Machine.stay machine) = [])
    (turns : List Turn) :
    (turns.filter (!·.isStale)).flatMap (view ·.step) = turns.flatMap (view ·.step) := by
  induction turns with
  | nil => rfl
  | cons turn rest ih =>
    cases stale : turn.isStale with
    | true => simp [stale, ih, turn.step_of_stale stale, silent]
    | false => simp [stale, ih]

/--
Without its stale events a run over the same radio ends in the same machine, makes the same calls, tells
the display the same, and handles the events that are left in the same turns, so with the same results. A
stale event is passed over without an error and without a timer.
-/
theorem stale_events_inert {World : Type} (radio : Radio World) (config : Config)
    (occasions : List (Occasion World)) :
    let machine := Machine.new config
    let whole := machine.moments radio [] occasions
    let short := machine.moments radio [] (machine.withoutStale radio [] occasions)
    machine.run short = machine.run whole ∧ machine.trace short = machine.trace whole ∧
      machine.told short = machine.told whole ∧
      machine.history short = (machine.history whole).filter (!·.isStale) ∧
      ∀ turn ∈ machine.history whole, turn.isStale = true → turn.step.result = .ok none := by
  intro machine whole short
  have sifted : short = machine.sift whole := machine.moments_withoutStale radio [] occasions
  have turns : machine.history short = (machine.history whole).filter (!·.isStale) := by
    rw [sifted]
    exact machine.history_sift whole
  refine ⟨?_, ?_, ?_, turns, ?_⟩
  · rw [sifted]
    exact machine.run_sift whole
  · rw [Machine.trace, turns]
    exact flatMap_unstale Step.calls (fun _ => rfl) _
  · rw [Machine.told, turns]
    exact flatMap_unstale Step.events (fun _ => rfl) _
  · intro turn _ stale
    rw [turn.step_of_stale stale]
    rfl

def numbering : Radio Bool := fun permitted calls => { willing calls.length with permission := permitted }

/-- The robot is lost and found again; timers and reports of the first time come late. -/
def lateReports : List (Occasion Bool) :=
  [⟨true, .scan⟩, ⟨true, .transport (.discovered ⟨7, robotName⟩)⟩, ⟨true, .timer (.connectSettled 1)⟩,
    ⟨true, .transport (.connected 2 0)⟩, ⟨true, .transport (.disconnected 2 8)⟩, ⟨true, .scan⟩,
    ⟨false, .timer (.scanTimedOut 1)⟩, ⟨true, .transport (.discovered ⟨7, robotName⟩)⟩,
    ⟨true, .timer (.connectSettled 2)⟩, ⟨true, .transport (.connected 2 0)⟩,
    ⟨true, .transport (.connected 7 0)⟩, ⟨true, .timer (.discoveryTimedOut 1)⟩,
    ⟨true, .transport (.disconnected 2 8)⟩]

theorem lateReports_inert :
    let machine := Machine.new {}
    let whole := machine.moments numbering [] lateReports
    let kept := machine.withoutStale numbering [] lateReports
    kept.length = 9 ∧ machine.run whole = machine.run (machine.moments numbering [] kept) ∧
      (machine.run whole).phase = .discovering 2 ⟨7, robotName⟩ 7 {} ∧
      ∃ turn ∈ machine.history whole, turn.isStale = true ∧ turn.step.result = .ok none := by
  intro machine whole kept
  have inert := stale_events_inert numbering {} lateReports
  let late : Turn := (machine.history whole).get ⟨9, by decide⟩
  have met : late ∈ machine.history whole := List.get_mem _ _
  have stale : late.isStale = true := by decide
  exact ⟨by decide, inert.1.symm, by decide, late, met, stale, inert.2.2.2.2 late met stale⟩

end SpinnerRemote.Link
