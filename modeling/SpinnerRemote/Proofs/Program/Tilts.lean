import SpinnerRemote.Proofs.Console.Grammar
import SpinnerRemote.Proofs.Console.Schedule
import SpinnerRemote.Proofs.Control.Tilt
import SpinnerRemote.Proofs.Program.Run
import SpinnerRemote.Proofs.Station.Coupling

/-!
The tilts that are typed, and what they do to the radius. The sample of the program is the tilt that the console
read last, `run_sample`, and each tick takes it from there.

The console refuses a tilt that is no finite number of G. Its sample may still be infinite, and then so may the
radius: `radius_finite_up_to_greatestTilt`.
-/
namespace SpinnerRemote

open Control (greatestTilt tilted)

namespace Console

def Reading.tilt? : Reading → Option (Single × Single)
  | .command (.tilt forwardBack steer) => some (forwardBack, steer)
  | _ => none

def Reading.sample? (reading : Reading) : Option AccelSample :=
  reading.tilt?.map fun (forwardBack, steer) => tilted forwardBack steer

theorem Reading.tilt_finite {line : List UInt8} {tilt : Single × Single}
    (read : (ofLine line).tilt? = some tilt) : tilt.1.isFinite = true ∧ tilt.2.isFinite = true := by
  unfold ofLine at read
  split at read
  next => cases read
  next text _ =>
    split at read
    next => cases read
    next =>
      cases parsed : Command.parse text.toList with
      | error => simp [parsed, Reading.tilt?] at read
      | ok command =>
        rw [parsed] at read
        cases command with
        | tilt forwardBack steer =>
          cases read
          have means := Command.parse_eq_iff.mp parsed
          generalize Text.words text.toList = words at means
          cases means with
          | plain listed => simp [Command.plainCommands] at listed
          | tilted _ tilts tilts' => exact ⟨tilts.2, tilts'.2⟩
        | _ => cases read

theorem Reading.answers_samples (reading : Reading) :
    reading.answers.filterMap Effect.sample? = reading.sample?.toList := by
  cases reading with
  | command command => cases command <;> rfl
  | _ => rfl

namespace Session

theorem step_samples (session : Session) (output : Option Control.Output) (input : Input) :
    (session.step output input).2.filterMap Effect.sample? =
      ((session.reading? input).bind Reading.sample?).toList := by
  have plain (effect : Effect) : effect.bare.sample? = effect.sample? := by cases effect <;> rfl
  rw [← filterMap_answersOf (fun _ => rfl) plain, (step_reading output session input).2]
  cases session.reading? input with
  | none => rfl
  | some reading =>
    rw [Option.toList_some, List.flatMap_singleton, Reading.answers_samples]
    rfl

end Session
end Console

namespace Program

open Console (Effect Reading)

theorem foldl_perform_sample (effects : List Effect) (program : Program) :
    (effects.foldl perform program).sample =
      (effects.filterMap Effect.sample?).getLast?.or program.sample := by
  induction effects generalizing program with
  | nil => rfl
  | cons effect rest ih =>
    rw [List.foldl_cons, ih]
    cases effect with
    | sample measured =>
      cases last : (rest.filterMap Effect.sample?).getLast? <;>
        simp [perform, Effect.sample?, List.getLast?_cons, last]
    | _ => rfl

variable (program : Program)

theorem input_sample (input : Console.Input) :
    (program.input [input]).sample =
      ((program.console.reading? input).bind Reading.sample?).or program.sample := by
  have one : program.console.steps program.output [input] = program.console.step program.output input := rfl
  rw [input_eq, foldl_perform_sample, one, Console.Session.step_samples]
  cases (program.console.reading? input).bind Reading.sample? <;> rfl

theorem events_sample (events : List Link.AppEvent) :
    (program.input (events.map .event)).sample = program.sample := by
  induction events generalizing program with
  | nil => rfl
  | cons event rest ih =>
    have unread : program.console.reading? (.event event) = none := by
      rw [Console.Session.reading?]
      split <;> rfl
    rw [List.map_cons, input_cons, ih, input_sample, unread]
    rfl

theorem catchUp_sample : program.catchUp.sample = program.sample := by
  simp only [catchUp_eq, events_sample]

theorem step_sample (happening : Happening) :
    (program.step happening).sample =
      ((program.reading? happening).bind Reading.sample?).or program.sample := by
  cases happening with
  | input input => exact program.input_sample input
  | conclude => rfl
  | settle => exact catchUp_sample _
  | powerOff => exact catchUp_sample _
  | advanceLink => exact catchUp_sample _
  | tick => exact (catchUp_sample _).trans (catchUp_sample _)
  | shutdown => exact catchUp_sample _

/-- The sample after a run is the tilt that was read last in it. -/
theorem run_sample (happenings : List Happening) :
    (program.run happenings).sample =
      ((program.readings happenings).filterMap Reading.sample?).getLast?.or program.sample := by
  induction happenings generalizing program with
  | nil => rfl
  | cons happening rest ih =>
    have later : (program.run (happening :: rest)).sample = ((program.step happening).run rest).sample := rfl
    rw [later, ih, step_sample, readings, List.filterMap_append, List.getLast?_append, Option.or_assoc]
    cases program.reading? happening with
    | none => rfl
    | some reading => cases sampled : reading.sample? <;> simp [sampled]

/-! What a tick computes. -/

theorem input_loop (inputs : List Console.Input) : (program.input inputs).loop = program.loop := by
  rw [input_eq, foldl_perform]

theorem tick_of_standing : ∃ moment : Control.Moment,
    moment.settings = program.console.settings ∧ moment.sample = program.sample ∧
      program.tick.output = some (program.loop.tick moment).2 ∧
      program.tick.loop = (program.loop.tick moment).1 := by
  let advanced := program.advanceLink program.nextTick
  have loop : advanced.loop = program.loop := input_loop _ _
  refine ⟨⟨advanced.nextTick, advanced.console.settings, advanced.sample, advanced.station.isConnected⟩,
    catchUp_settings _, catchUp_sample _, ?_, ?_⟩
  · rw [← loop]
    exact input_output _ _
  · rw [← loop]
    exact input_loop _ _

theorem step_limits (happening : Happening) : (program.step happening).loop.limits = program.loop.limits := by
  cases happening with
  | conclude => rfl
  | tick =>
    obtain ⟨moment, -, -, -, loop⟩ := program.tick_of_standing
    rw [step, loop]
    rfl
  | _ => exact congrArg Control.Loop.limits (input_loop _ _)

theorem run_limits (happenings : List Happening) : (program.run happenings).loop.limits = program.loop.limits := by
  induction happenings generalizing program with
  | nil => rfl
  | cons happening rest ih => exact (ih _).trans (program.step_limits happening)

theorem overdriven_tilted_iff {settings : ControlSettings} {tilts : List (Single × Single)}
    (finite : ∀ tilt ∈ tilts, tilt.1.isFinite = true ∧ tilt.2.isFinite = true) :
    Control.Overdriven settings (tilts.getLast?.map fun tilt => tilted tilt.1 tilt.2) ↔
      settings.tiltSteer = true ∧ 0 < settings.trim ∧
        ∃ tilt, tilts.getLast? = some tilt ∧ greatestTilt < tilt.2 := by
  refine and_congr_right' (and_congr_right' ?_)
  cases last : tilts.getLast? with
  | none => simp
  | some tilt =>
    have steer := (finite tilt (List.mem_of_getLast? last)).2
    simpa [tilted] using Control.scaled_eq_inf_iff (Binary.isNaN_of_isFinite steer)

theorem reading_of_line {happening : Happening} {reading : Reading}
    (read : program.reading? happening = some reading) : ∃ line, reading = .ofLine line := by
  cases happening with
  | input input =>
    obtain ⟨-, read⟩ := Option.ite_none_right_eq_some.mp read
    obtain ⟨line, -, same⟩ := Option.map_eq_some_iff.mp read
    exact ⟨line, same.symm⟩
  | _ => cases read

theorem readings_of_lines {happenings : List Happening} {reading : Reading}
    (read : reading ∈ program.readings happenings) : ∃ line, reading = .ofLine line := by
  induction happenings generalizing program with
  | nil => cases read
  | cons happening rest ih =>
    obtain here | later := List.mem_append.mp read
    · exact program.reading_of_line (Option.mem_toList.mp here)
    · exact ih _ later

/--
A tilt that is read is two finite numbers of G. Up to `greatestTilt` to either side they give a sample of finite
numbers, and beyond it they do not. The last of them is the sample at a tick. Its radius is finite unless the
sample steers, to the side that turns the radius up, a trim that is not zero with an infinite number; then the
frame has the greatest radius that it can have.
-/
theorem radius_finite_up_to_greatestTilt (limits : program.loop.limits = {})
    (inRange : program.console.settings.InRange) (fresh : program.sample = none)
    (happenings : List Happening) :
    let after := program.run happenings
    let tilts := (program.readings happenings).filterMap Reading.tilt?
    let overdriven := after.console.settings.tiltSteer = true ∧ 0 < after.console.settings.trim ∧
      ∃ tilt, tilts.getLast? = some tilt ∧ greatestTilt < tilt.2
    (∀ tilt ∈ tilts, tilt.1.isFinite = true ∧ tilt.2.isFinite = true) ∧
    (∀ tilt ∈ tilts,
      let sample := tilted tilt.1 tilt.2
      (sample.x.isFinite = true ↔ -greatestTilt ≤ tilt.1 ∧ tilt.1 ≤ greatestTilt) ∧
      (sample.y.isFinite = true ↔ -greatestTilt ≤ tilt.2 ∧ tilt.2 ≤ greatestTilt) ∧
      sample.z.isFinite = true) ∧
    after.sample = tilts.getLast?.map (fun tilt => tilted tilt.1 tilt.2) ∧
    ∃ output, after.tick.output = some output ∧
      (¬overdriven → output.radius.isFinite = true) ∧
      (overdriven → output.radius = .inf false ∧ output.frame.radius = 65535) := by
  intro after tilts overdriven
  have finite : ∀ tilt ∈ tilts, tilt.1.isFinite = true ∧ tilt.2.isFinite = true := by
    intro tilt member
    obtain ⟨reading, read, given⟩ := List.mem_filterMap.mp member
    obtain ⟨line, rfl⟩ := program.readings_of_lines read
    exact Reading.tilt_finite given
  have sample : after.sample = tilts.getLast?.map fun tilt => tilted tilt.1 tilt.2 := by
    have sampled : (program.readings happenings).filterMap Reading.sample? =
        tilts.map fun tilt => tilted tilt.1 tilt.2 := List.map_filterMap.symm
    rw [program.run_sample, fresh, Option.or_none, sampled, List.getLast?_map]
  refine ⟨finite, fun tilt member => ?_, sample, ?_⟩
  · obtain ⟨forwardBack, steer⟩ := finite tilt member
    exact ⟨Control.scaled_isFinite_iff (Binary.isNaN_of_isFinite forwardBack),
      Control.scaled_isFinite_iff (Binary.isNaN_of_isFinite steer), Control.standardGravity_bounds.1⟩
  · obtain ⟨moment, settings, measured, output, -⟩ := after.tick_of_standing
    have radius : (after.loop.tick moment).2.radius =
        Control.radius {} after.console.settings after.sample := by
      rw [← settings, ← measured, ← limits, ← program.run_limits happenings]
      rfl
    have same : Control.Overdriven after.console.settings after.sample ↔ overdriven := by
      rw [sample]
      exact overdriven_tilted_iff finite
    have inRange := run_inRange inRange happenings
    refine ⟨_, output, ?_⟩
    rw [← same, radius]
    obtain ⟨driven, infinite⟩ | ⟨steady, finite⟩ := Control.radius_cases inRange after.sample
    · refine ⟨fun steady => absurd driven steady, fun _ => ⟨infinite, ?_⟩⟩
      have top : radiusToFixed (.inf false) = 65535 := by decide
      rw [← top, ← infinite, ← radius]
      rfl
    · exact ⟨fun _ => finite, fun driven => absurd driven steady⟩

def standard : Program := { new {} {} Station.defaultRobot {} with console := {} }

def tilting (forwardBack steer : String) : List Happening :=
  ("tilt-steer on\ntilt " ++ forwardBack ++ " " ++ steer ++ "\n").toUTF8.toList.map fun byte => .input (.byte byte)

/-- The greatest tilt that steers with a finite number. No tilt forward or back touches the radius. -/
theorem greatestTilt_steers :
    standard.loop.limits = {} ∧ standard.console.settings.InRange ∧ standard.sample = none ∧
      let after := standard.run (tilting "1e38" "3.4722687e37")
      after.sample = some (tilted 1e38 greatestTilt) ∧ (tilted 1e38 greatestTilt).x = .inf false ∧
        ∃ output, after.tick.output = some output ∧ output.radius.isFinite = true := by
  have read : (standard.readings (tilting "1e38" "3.4722687e37")).filterMap Reading.tilt? =
      [(1e38, greatestTilt)] := by decide +kernel
  obtain ⟨-, -, sample, output, ticked, finite, -⟩ := standard.radius_finite_up_to_greatestTilt rfl
    ControlSettings.default_inRange rfl (tilting "1e38" "3.4722687e37")
  rw [read] at sample finite
  refine ⟨rfl, ControlSettings.default_inRange, rfl, sample, by decide +kernel, output, ticked, finite ?_⟩
  rintro ⟨-, -, _, ⟨⟩, beyond⟩
  exact absurd beyond (by decide +kernel)

/-- A tilt that is read, of finite numbers of G, whose sample is infinite and the radius with it. -/
theorem greater_tilt_overflows :
    let after := standard.run (tilting "0" "1e38")
    (standard.readings (tilting "0" "1e38")).filterMap Reading.tilt? = [(0, 1e38)] ∧
      (1e38 : Single).isFinite = true ∧ after.sample.map (·.y) = some (.inf false) ∧
      after.tick.output.map (·.radius) = some (.inf false) := by
  decide +kernel

end Program
end SpinnerRemote
