import SpinnerRemote.Proofs.Control.Frames

/-!
The pace of the heartbeat. Of a run of ticks at any times, some move the marker; `heartbeat_paced` says
which ones do, that they are an interval apart however the clock goes, and how many of them a span of time
can hold. The ticks of a control session are such a run.
-/
namespace SpinnerRemote

namespace Heartbeat

structure Tick where
  now : Nat
  active : Bool
  deriving DecidableEq, Repr

def after (heartbeat : Heartbeat) (ticks : List Tick) : Heartbeat :=
  ticks.foldl (fun heartbeat tick => heartbeat.tick tick.now tick.active) heartbeat

def advance? (heartbeat : Heartbeat) (tick : Tick) : Option Nat :=
  if (heartbeat.tick tick.now tick.active).value = heartbeat.value then none else some tick.now

def advances (heartbeat : Heartbeat) : List Tick → List Nat
  | [] => []
  | tick :: rest =>
    (heartbeat.advance? tick).toList ++ advances (heartbeat.tick tick.now tick.active) rest

def Apart (interval earlier later : Nat) : Prop := earlier + interval ≤ later

/-- A tick is active, and no advance is less than an interval old. -/
def Tick.Moves (interval : Nat) (times : List Nat) (tick : Tick) : Prop :=
  tick.active = true ∧ ∀ last, times.getLast? = some last → Apart interval last tick.now

variable {heartbeat : Heartbeat} {interval : Nat} {times : List Nat} {tick : Tick}

theorem after_snoc (heartbeat : Heartbeat) (ticks : List Tick) (tick : Tick) :
    heartbeat.after (ticks ++ [tick]) = (heartbeat.after ticks).tick tick.now tick.active := by
  simp [after]

theorem advances_snoc (heartbeat : Heartbeat) (ticks : List Tick) (tick : Tick) :
    heartbeat.advances (ticks ++ [tick]) =
      heartbeat.advances ticks ++ ((heartbeat.after ticks).advance? tick).toList := by
  induction ticks generalizing heartbeat with
  | nil => simp [advances, after]
  | cons first rest ih => simp [advances, ih, after]

theorem next_ne (value : UInt8) : next value ≠ value := by
  rw [ne_eq, ← UInt8.toNat_inj, toNat_next]
  split <;> omega

theorem next_toNat {value : UInt8} {count : Nat} (here : value.toNat = 10 + count % 4) :
    (next value).toNat = 10 + (count + 1) % 4 := by
  rw [toNat_next]
  split <;> omega

/-! What a tick does, told by the advances before it. -/

/-- A heartbeat after these advances. -/
structure Paced (interval : Nat) (heartbeat : Heartbeat) (times : List Nat) : Prop where
  every : heartbeat.interval = interval
  last : heartbeat.lastAdvance = times.getLast?
  value : heartbeat.value.toNat = 10 + times.length % 4
  apart : times.IsChain (Apart interval)

theorem paced_new (interval : Nat) : Paced interval { interval } [] where
  every := rfl
  last := rfl
  value := rfl
  apart := .nil

/-- With a positive interval a time that is due is no earlier than the last advance, although the difference
of times is never negative. -/
theorem Paced.due_iff (paced : Paced interval heartbeat times) (positive : 0 < interval) (now : Nat) :
    heartbeat.due now = true ↔ ∀ last, times.getLast? = some last → Apart interval last now := by
  unfold due Apart
  rw [paced.last, paced.every]
  cases times.getLast? with
  | none => simp
  | some last =>
    simp only [decide_eq_true_eq, Option.some.injEq, forall_eq']
    omega

theorem Paced.tick_of_moves (paced : Paced interval heartbeat times) (positive : 0 < interval)
    (moves : tick.Moves interval times) :
    heartbeat.tick tick.now tick.active =
      { heartbeat with value := next heartbeat.value, lastAdvance := some tick.now } := by
  have due := (paced.due_iff positive tick.now).mpr moves.2
  simp [Heartbeat.tick, moves.1, due]

theorem Paced.tick_of_not_moves (paced : Paced interval heartbeat times) (positive : 0 < interval)
    (still : ¬tick.Moves interval times) : heartbeat.tick tick.now tick.active = heartbeat := by
  refine if_neg fun moves => still ?_
  obtain ⟨active, due⟩ := Bool.and_eq_true_iff.mp moves
  exact ⟨active, (paced.due_iff positive tick.now).mp due⟩

theorem Paced.value_ne_iff (paced : Paced interval heartbeat times) (positive : 0 < interval)
    (tick : Tick) :
    (heartbeat.tick tick.now tick.active).value ≠ heartbeat.value ↔ tick.Moves interval times := by
  constructor
  · intro moved
    by_contra still
    exact moved (by rw [paced.tick_of_not_moves positive still])
  · intro moves
    rw [paced.tick_of_moves positive moves]
    exact next_ne heartbeat.value

theorem Paced.moved (paced : Paced interval heartbeat times) (moves : tick.Moves interval times) :
    Paced interval { heartbeat with value := next heartbeat.value, lastAdvance := some tick.now }
      (times ++ [tick.now]) where
  every := paced.every
  last := List.getLast?_concat.symm
  value := by
    rw [List.length_append, List.length_singleton]
    exact next_toNat paced.value
  apart := paced.apart.append (.singleton _) fun last final now first => by
    cases first
    exact moves.2 last final

theorem Paced.step (paced : Paced interval heartbeat times) (positive : 0 < interval) (tick : Tick) :
    Paced interval (heartbeat.tick tick.now tick.active)
      (times ++ (heartbeat.advance? tick).toList) := by
  unfold advance?
  by_cases moves : tick.Moves interval times
  · rw [if_neg ((paced.value_ne_iff positive tick).mpr moves), paced.tick_of_moves positive moves]
    exact paced.moved moves
  · rw [paced.tick_of_not_moves positive moves, if_pos rfl, Option.toList_none, List.append_nil]
    exact paced

theorem after_paced (positive : 0 < interval) (ticks : List Tick) :
    Paced interval (after { interval } ticks) (advances { interval } ticks) := by
  induction ticks using List.reverseRecOn with
  | nil => exact paced_new interval
  | append_singleton ticks tick ih =>
    rw [after_snoc, advances_snoc]
    exact ih.step positive tick

theorem advances_eq_nil_iff (positive : 0 < interval) (ticks : List Tick) :
    advances { interval } ticks = [] ↔ ∀ tick ∈ ticks, tick.active = false := by
  induction ticks using List.reverseRecOn with
  | nil => simp [advances]
  | append_singleton ticks tick ih =>
    have moves := (after_paced positive ticks).value_ne_iff positive tick
    rw [advances_snoc, List.append_eq_nil_iff, List.forall_mem_append, List.forall_mem_singleton, ih]
    refine and_congr_right fun before => ?_
    rw [Tick.Moves, ih.mpr before] at moves
    simpa [advance?] using moves.not

/-! Times that are an interval apart. -/

theorem apart_trans {first second third : Nat} (one : Apart interval first second)
    (other : Apart interval second third) : Apart interval first third := by
  unfold Apart at *
  omega

instance (interval : Nat) : IsTrans Nat (Apart interval) := ⟨fun _ _ _ => apart_trans⟩

theorem le_getLast_of_apart {first : Nat} {rest : List Nat}
    (apart : (first :: rest).IsChain (Apart interval)) :
    first + rest.length * interval ≤ (first :: rest).getLast (List.cons_ne_nil _ _) := by
  induction rest generalizing first with
  | nil => simp
  | cons second rest ih =>
    obtain ⟨next, later⟩ := List.isChain_cons_cons.mp apart
    have span := ih later
    unfold Apart at next
    rw [List.getLast_cons (List.cons_ne_nil _ _), List.length_cons, Nat.succ_mul]
    omega

theorem length_le_of_apart (positive : 0 < interval) (apart : times.IsChain (Apart interval))
    (start length : Nat) (within : ∀ time ∈ times, start ≤ time ∧ time ≤ start + length) :
    times.length ≤ length / interval + 1 := by
  cases times with
  | nil => exact Nat.zero_le _
  | cons first rest =>
    have span := le_getLast_of_apart apart
    have least := (within first List.mem_cons_self).1
    have greatest := (within _ (List.getLast_mem (List.cons_ne_nil first rest))).2
    refine Nat.succ_le_succ ((Nat.le_div_iff_mul_le positive).mpr ?_)
    omega

theorem count_le_of_apart (positive : 0 < interval) (apart : times.IsChain (Apart interval))
    (start length : Nat) :
    (times.filter fun time => start ≤ time ∧ time ≤ start + length).length ≤ length / interval + 1 := by
  refine length_le_of_apart positive ?_ start length fun time member => ?_
  · rw [List.isChain_iff_pairwise] at apart ⊢
    exact apart.filter _
  · simpa using (List.mem_filter.mp member).2

end Heartbeat

namespace Control

/-- The heartbeat's ticks in what happens to a session: it is active while it is switched on and the
console is in the foreground. -/
def beats (settings : ControlSettings) : List Happening → List Heartbeat.Tick
  | [] => []
  | .tick now :: rest => ⟨now, settings.heartbeat && settings.foreground⟩ :: beats settings rest
  | .adjust adjustment :: rest => beats (settings.adjust adjustment) rest
  | _ :: rest => beats settings rest

theorem Session.run_heartbeat (session : Session) (happenings : List Happening) :
    (session.run happenings).1.loop.heartbeat =
      session.loop.heartbeat.after (beats session.settings happenings) := by
  induction happenings generalizing session with
  | nil => rfl
  | cons happening rest ih =>
    refine (ih (session.step happening).1).trans ?_
    cases happening with
    | tick now =>
      rw [step_tick_heartbeat]
      rfl
    | _ => rfl

end Control

namespace Heartbeat

/--
After any ticks with a positive interval: the marker is one of 10 to 13, and as many steps round from 10 as
there were advances. A tick moves it, by one step, exactly if it is active and no advance is less than an
interval old; there is no advance before the first active tick. Advances are an interval apart or more,
so a span of time holds no more of them than intervals fit into it, and one. The ticks of a control
session of this interval are such ticks.
-/
theorem heartbeat_paced (interval : Nat) (positive : 0 < interval) (ticks : List Tick) :
    let heartbeat := after { interval } ticks
    let times := advances { interval } ticks
    (10 ≤ heartbeat.value ∧ heartbeat.value ≤ 13) ∧
      heartbeat.value.toNat = 10 + times.length % 4 ∧
      (∀ tick : Tick,
        ((heartbeat.tick tick.now tick.active).value ≠ heartbeat.value ↔
          tick.active = true ∧ ∀ last, times.getLast? = some last → last + interval ≤ tick.now) ∧
        ((heartbeat.tick tick.now tick.active).value ≠ heartbeat.value →
          (heartbeat.tick tick.now tick.active).value.toNat = 10 + (times.length + 1) % 4)) ∧
      (times = [] ↔ ∀ tick ∈ ticks, tick.active = false) ∧
      times.IsChain (fun earlier later => earlier + interval ≤ later) ∧
      (∀ start length,
        (times.filter fun time => start ≤ time ∧ time ≤ start + length).length ≤
          length / interval + 1) ∧
      ∀ limits preferences happenings,
        ((Control.Session.new limits interval preferences).run happenings).1.loop.heartbeat =
          after { interval } (Control.beats (ControlSettings.load preferences limits) happenings) := by
  intro heartbeat times
  have paced : Paced interval heartbeat times := after_paced positive ticks
  refine ⟨?_, paced.value, ?_, advances_eq_nil_iff positive ticks, paced.apart,
    count_le_of_apart positive paced.apart, ?_⟩
  · have value := paced.value
    have least : (10 : UInt8).toNat = 10 := rfl
    have greatest : (13 : UInt8).toNat = 13 := rfl
    rw [UInt8.le_iff_toNat_le, UInt8.le_iff_toNat_le, value]
    omega
  · intro tick
    have moves := paced.value_ne_iff positive tick
    refine ⟨moves, fun moved => ?_⟩
    rw [paced.tick_of_moves positive (moves.mp moved)]
    exact next_toNat paced.value
  · intro limits preferences happenings
    exact Control.Session.run_heartbeat _ happenings

def unsteady : List Tick :=
  [⟨5, false⟩, ⟨10, true⟩, ⟨409, true⟩, ⟨410, true⟩, ⟨100, true⟩, ⟨900, false⟩, ⟨901, true⟩]

theorem unsteady_paced :
    0 < 400 ∧ advances { interval := 400 } unsteady = [10, 410, 901] ∧
      (after { interval := 400 } unsteady).value.toNat = 13 ∧
      ([10, 410, 901].filter fun time => 10 ≤ time ∧ time ≤ 10 + 800).length ≤ 800 / 400 + 1 := by
  have times : advances { interval := 400 } unsteady = [10, 410, 901] := by decide
  obtain ⟨-, value, -, -, -, count, -⟩ := heartbeat_paced 400 (by decide) unsteady
  rw [times] at value count
  exact ⟨by decide, times, value, count 10 800⟩

end Heartbeat
end SpinnerRemote
