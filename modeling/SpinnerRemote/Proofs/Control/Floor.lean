import SpinnerRemote.Proofs.Control.Session
import SpinnerRemote.Proofs.Wire.Radius

/-!
The floor of the radius. Whatever the law computes of infinities and of no numbers, the maximum that ends it
takes the floor for all that is not at least the floor, and so every output of every run is no less.
-/
namespace SpinnerRemote.Control
open Binary

def bentRadius (limits : RadiusLimits) (settings : ControlSettings) (sample : Option AccelSample) : Single :=
  let trimmed := trimRadius limits.max settings.trim settings.fine
  match sample with
  | some sample => if settings.tiltSteer then applyTilt trimmed sample else trimmed
  | none => trimmed

theorem radius_eq_max (limits : RadiusLimits) (settings : ControlSettings) (sample : Option AccelSample) :
    radius limits settings sample = max (bentRadius limits settings sample) limits.min := rfl

/-- The radius is a number and no less than a floor, and no less on the wire either. -/
structure Output.Above (output : Output) (floor : Single) : Prop where
  number : output.radius.isNaN = false
  least : floor ≤ output.radius
  sent : radiusToFixed floor ≤ output.frame.radius

theorem Loop.tick_above {loop : Loop} (number : loop.limits.min.isNaN = false) (moment : Moment) :
    (loop.tick moment).2.Above loop.limits.min := by
  have least : loop.limits.min ≤ (loop.tick moment).2.radius := Binary.le_max_right number
  exact {
    number := (isNaN_of_le least).2
    least := least
    sent := radiusToFixed_mono least }

namespace Session

theorem step_above {session : Session} (number : session.loop.limits.min.isNaN = false)
    (happening : Happening) :
    ∀ output ∈ (session.step happening).2, output.Above session.loop.limits.min := by
  intro output emitted
  cases happening with
  | tick now =>
    obtain rfl := Option.mem_some.mp emitted
    exact Loop.tick_above number _
  | _ => cases emitted

theorem run_above {session : Session} (number : session.loop.limits.min.isNaN = false)
    (happenings : List Happening) :
    ∀ output ∈ (session.run happenings).2, output.Above session.loop.limits.min := by
  induction happenings generalizing session with
  | nil =>
    intro output emitted
    cases emitted
  | cons happening rest ih =>
    intro output emitted
    have limits := session.step_limits happening
    obtain now | later := List.mem_append.mp emitted
    · exact step_above number happening output (Option.mem_toList.mp now)
    · rw [← limits] at number ⊢
      exact ih number output later

end Session

/--
For limits whose floor is a number, whatever the greatest radius is and whatever was sampled, the radius of
every tick is a number and not below the floor, with tilt steering on or off. It is the trimmed and bent radius
where that is at least the floor, and the floor otherwise: also where it is no number.
-/
theorem radius_never_below_floor (session : Session) (number : session.loop.limits.min.isNaN = false)
    (happenings : List Happening) :
    let limits := session.loop.limits
    (∀ output ∈ (session.run happenings).2,
      output.radius.isNaN = false ∧ limits.min ≤ output.radius ∧
        radiusToFixed limits.min ≤ output.frame.radius) ∧
    ∀ moment : Moment,
      ((session.run happenings).1.loop.tick moment).2.radius =
        if limits.min ≤ bentRadius limits moment.settings moment.sample then
          bentRadius limits moment.settings moment.sample
        else limits.min := by
  intro limits
  constructor
  · intro output emitted
    have above := Session.run_above number happenings output emitted
    exact ⟨above.number, above.least, above.sent⟩
  · intro moment
    have same : (session.run happenings).1.loop.limits = limits := session.run_limits happenings
    have ticked : ((session.run happenings).1.loop.tick moment).2.radius =
        radius (session.run happenings).1.loop.limits moment.settings moment.sample := rfl
    rw [ticked, same, radius_eq_max, max_eq number]

/-- With an infinite greatest radius: nothing of it, all of it, and bent by what no phone measures. -/
theorem infinite_limits_heeded :
    let start := Session.new { max := .inf false } 400 {}
    let happenings : List Happening := [.tick 0, .adjust (.trim 500), .adjust (.fine 600), .tick 50,
      .adjust (.tiltSteer true), .sample ⟨0, .nan, 0⟩, .tick 100, .sample ⟨.nan, .inf true, .nan⟩, .tick 150]
    (start.run happenings).2.map (·.radius) = [0.1, .inf false, 0.1, 0.1] ∧
      ∀ output ∈ (start.run happenings).2, output.radius.isNaN = false ∧ 0.1 ≤ output.radius := by
  intro start happenings
  have heeded := (radius_never_below_floor start (by decide) happenings).1
  refine ⟨by decide +kernel, fun output emitted => ?_⟩
  obtain ⟨number, least, -⟩ := heeded output emitted
  exact ⟨number, least⟩

end SpinnerRemote.Control
