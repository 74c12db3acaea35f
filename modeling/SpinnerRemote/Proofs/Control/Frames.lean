import SpinnerRemote.Proofs.Control.Session
import SpinnerRemote.Proofs.Wire.Frame

/-!
The frames of a control session. Every tick computes one frame, from the settings as they were adjusted
last, the latest sample and the heartbeat, and hands it on exactly if the link was last said to be up.
`frames_well_formed` states this of any run over any stored preferences, with the ranges of the bytes.
-/
namespace SpinnerRemote

def Heartbeat.InRound (heartbeat : Heartbeat) : Prop :=
  heartbeatFirst ≤ heartbeat.value ∧ heartbeat.value ≤ heartbeatLast

theorem heartbeatFirst_toNat : heartbeatFirst.toNat = 10 := rfl

theorem heartbeatLast_toNat : heartbeatLast.toNat = 13 := rfl

theorem Heartbeat.toNat_next (value : UInt8) :
    (next value).toNat = if 13 ≤ value.toNat then 10 else value.toNat + 1 := by
  unfold next
  simp only [UInt8.le_iff_toNat_le, heartbeatLast_toNat]
  split
  next => rfl
  next inside =>
    have one : (1 : UInt8).toNat = 1 := rfl
    rw [UInt8.toNat_add, one]
    omega

theorem Heartbeat.inRound_next {value : UInt8} (first : heartbeatFirst ≤ value) :
    heartbeatFirst ≤ next value ∧ next value ≤ heartbeatLast := by
  simp only [UInt8.le_iff_toNat_le, toNat_next, heartbeatFirst_toNat, heartbeatLast_toNat] at first ⊢
  split <;> omega

theorem Heartbeat.InRound.tick {heartbeat : Heartbeat} (inRound : heartbeat.InRound) (now : Nat)
    (active : Bool) : (heartbeat.tick now active).InRound := by
  unfold Heartbeat.tick
  split
  · exact inRound_next inRound.1
  · exact inRound

namespace Control

def Happening.adjustment? : Happening → Option Adjustment
  | .adjust adjustment => some adjustment
  | _ => none

def Happening.sample? : Happening → Option AccelSample
  | .sample measured => some measured
  | _ => none

def Happening.link? : Happening → Option Bool
  | .link connected => some connected
  | _ => none

def adjusted (settings : ControlSettings) (happenings : List Happening) : ControlSettings :=
  (happenings.filterMap Happening.adjustment?).foldl ControlSettings.adjust settings

def latestSample (happenings : List Happening) : Option AccelSample :=
  (happenings.filterMap Happening.sample?).getLast?

def linkUp (happenings : List Happening) : Bool :=
  (happenings.filterMap Happening.link?).getLastD false

namespace Session

variable (session : Session)

theorem run_snoc (before : List Happening) (happening : Happening) :
    session.run (before ++ [happening]) =
      (((session.run before).1.step happening).1,
        (session.run before).2 ++ ((session.run before).1.step happening).2.toList) := by
  induction before generalizing session with
  | nil => simp [run]
  | cons first rest ih => simp [run, ih]

theorem run_settings (happenings : List Happening) :
    (session.run happenings).1.settings = adjusted session.settings happenings := by
  induction happenings using List.reverseRecOn with
  | nil => rfl
  | append_singleton before happening ih =>
    unfold adjusted at ih ⊢
    rw [run_snoc, List.filterMap_append, List.foldl_append, ← ih]
    cases happening <;> rfl

theorem run_sample (happenings : List Happening) :
    (session.run happenings).1.sample = (latestSample happenings).or session.sample := by
  induction happenings using List.reverseRecOn with
  | nil => rfl
  | append_singleton before happening ih =>
    unfold latestSample at ih ⊢
    rw [run_snoc, List.filterMap_append]
    cases happening with
    | sample measured => simp [step, Happening.sample?]
    | _ => simpa [step, Happening.sample?] using ih

theorem run_connected (happenings : List Happening) :
    (session.run happenings).1.connected =
      (happenings.filterMap Happening.link?).getLastD session.connected := by
  induction happenings using List.reverseRecOn with
  | nil => rfl
  | append_singleton before happening ih =>
    rw [run_snoc, List.filterMap_append]
    cases happening with
    | link connected => simp [step, Happening.link?]
    | _ => simpa [step, Happening.link?] using ih

/-- What a session has handed on and what it shows come from the outputs of its ticks, and nothing else. -/
theorem run_handed (happenings : List Happening) :
    (session.run happenings).1.handed =
        session.handed ++ (session.run happenings).2.filterMap Output.sent ∧
      (session.run happenings).1.published = (session.run happenings).2.getLast?.or session.published := by
  induction happenings using List.reverseRecOn with
  | nil => simp [run]
  | append_singleton before happening ih =>
    rw [run_snoc]
    cases happening with
    | tick now =>
      refine ⟨?_, by simp [step]⟩
      simp only [step, ih.1, List.filterMap_append, List.append_assoc]
      congr 1
    | _ => simpa [step] using ih

theorem step_inRound {session : Session} (inRound : session.loop.heartbeat.InRound)
    (happening : Happening) : (session.step happening).1.loop.heartbeat.InRound := by
  cases happening with
  | tick now =>
    have ticked := inRound.tick now (session.settings.heartbeat && session.settings.foreground)
    simp only [step]
    split <;> exact ticked
  | _ => exact inRound

theorem run_inRound {session : Session} (inRound : session.loop.heartbeat.InRound)
    (happenings : List Happening) : (session.run happenings).1.loop.heartbeat.InRound := by
  induction happenings generalizing session with
  | nil => exact inRound
  | cons happening rest ih => exact ih (step_inRound inRound happening)

end Session

theorem direction_byte_le (direction : Direction) : direction.byte ≤ 2 := by
  cases direction <;> decide

/-- An output with the frame that these settings and this sample ask for. -/
structure Output.Fits (output : Output) (settings : ControlSettings) (sample : Option AccelSample) :
    Prop where
  bytes : output.frame.encode = [output.frame.radius.toUInt8, (output.frame.radius >>> 8).toUInt8,
    settings.heading, settings.throttle, (Control.direction sample).byte, output.heartbeat]
  readable : Frame.decode output.frame.encode = .ok output.frame
  heading : settings.heading ≤ 99
  throttle : settings.throttle ≤ 100
  direction : (Control.direction sample).byte ≤ 2
  still : sample = none → (Control.direction sample).byte = 0
  heartbeat : 10 ≤ output.heartbeat ∧ output.heartbeat ≤ 13
  shown : output.heading = settings.heading ∧ output.throttle = settings.throttle ∧
    output.direction = Control.direction sample

theorem Loop.tick_fits {loop : Loop} {moment : Moment} (inRange : moment.settings.InRange)
    (inRound : loop.heartbeat.InRound) :
    (loop.tick moment).2.Fits moment.settings moment.sample := by
  have heading : moment.settings.heading % headingRange = moment.settings.heading :=
    UInt8.mod_eq_of_lt inRange.heading
  have throttle : min moment.settings.throttle throttleMax = moment.settings.throttle :=
    Std.LawfulOrderLeftLeaningMin.min_eq_left _ _ inRange.throttle
  have range : headingRange.toNat = 100 := rfl
  have onRing : moment.settings.heading ≤ 99 := by
    have below := inRange.heading
    rw [UInt8.lt_iff_toNat_lt, range] at below
    exact UInt8.le_iff_toNat_le.mpr (Nat.le_of_lt_succ below)
  exact {
    bytes := by simp only [tick, Frame.encode, Frame.new, heading, throttle]
    readable := Frame.decode_encode _
    heading := onRing
    throttle := inRange.throttle
    direction := direction_byte_le _
    still := by
      rintro still
      rw [still]
      rfl
    heartbeat := inRound.tick _ _
    shown := ⟨heading, throttle, rfl⟩ }

variable (limits : RadiusLimits) (interval : Nat) (preferences : Preferences) (before : List Happening)
  (now : Nat)

theorem Session.run_tick :
    let start := Session.new limits interval preferences
    (start.run (before ++ [.tick now])).2 = (start.run before).2 ++ [((start.run before).1.loop.tick {
      now
      settings := adjusted start.settings before
      sample := latestSample before
      connected := linkUp before }).2] := by
  intro start
  have sampled : (start.run before).1.sample = latestSample before :=
    (start.run_sample before).trans Option.or_none
  have linked : (start.run before).1.connected = linkUp before := start.run_connected before
  rw [run_snoc, ← run_settings, ← sampled, ← linked]
  rfl

/--
Each tick of a run computes one output, shows it, and hands on its frame exactly if the link was last said
to be up. The frame is what the settings, as they were adjusted last, and the latest sample ask for. At no
other time is anything handed on or shown.
-/
theorem frames_well_formed :
    let start := Session.new limits interval preferences
    let session := (start.run before).1
    let outputs := (start.run before).2
    let ticked := (start.run (before ++ [.tick now])).1
    session.handed = outputs.filterMap Output.sent ∧ session.published = outputs.getLast? ∧
    ∃ output, (start.run (before ++ [.tick now])).2 = outputs ++ [output] ∧
      ticked.published = some output ∧
      ticked.handed = session.handed ++ (if linkUp before then [output.frame] else []) ∧
      output.Fits (adjusted (ControlSettings.load preferences limits) before) (latestSample before) := by
  intro start session outputs ticked
  have inRange : (adjusted start.settings before).InRange := by
    rw [← Session.run_settings]
    exact Session.run_inRange (ControlSettings.load_inRange preferences limits) before
  have inRound : session.loop.heartbeat.InRound :=
    Session.run_inRound ⟨UInt8.le_refl _, (by decide : heartbeatFirst ≤ heartbeatLast)⟩ before
  obtain ⟨handed, published⟩ := start.run_handed before
  obtain ⟨more, last⟩ := start.run_handed (before ++ [.tick now])
  have ran := Session.run_tick limits interval preferences before now
  refine ⟨handed, published.trans Option.or_none, _, ran, ?_, ?_, Loop.tick_fits inRange inRound⟩
  · rw [last, ran, List.getLast?_concat]
    rfl
  · rw [more, ran, handed, List.filterMap_append, ← List.append_assoc]
    congr 1
    cases linkUp before <;> rfl

example : (((Session.new {} 400 {}).run [.tick 0, .link true, .adjust .headingDown, .adjust (.throttle 120),
    .sample (tilted (-0.5) .nan), .storage false, .tick 0]).1.handed).map (·.encode) =
      [[56, 39, 99, 100, 1, 11]] := by decide +kernel

end Control
end SpinnerRemote
