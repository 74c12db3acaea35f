import SpinnerRemote.Proofs.Control.Session

/-!
What the control law depends on, and what is stored.

`law_isolated` compares any two histories that differ in the stored preferences, the link, the saves that
fail, and those parts of the samples that no tick makes use of: their ticks compute the same. What the ticks
store comes from the trims, the heading and the greatest radius alone.
-/
namespace SpinnerRemote.Control

def Happening.isOutward : Happening → Bool
  | .link _ => true
  | .storage _ => true
  | _ => false

/-- Whether the latest sample steers at a tick, before another sample takes its place. -/
def steers : ControlSettings → List Happening → Bool
  | _, [] => false
  | _, .sample _ :: _ => false
  | settings, .adjust adjustment :: rest => steers (settings.adjust adjustment) rest
  | settings, .tick _ :: rest => settings.tiltSteer || steers settings rest
  | settings, _ :: rest => steers settings rest

/-- Histories, from some settings on, between which the control law must not tell a difference. -/
inductive Indistinct : ControlSettings → List Happening → List Happening → Prop
  | nil {settings : ControlSettings} : Indistinct settings [] []
  | adjust {settings : ControlSettings} {adjustment : Adjustment} {here there : List Happening}
    (later : Indistinct (settings.adjust adjustment) here there) :
    Indistinct settings (.adjust adjustment :: here) (.adjust adjustment :: there)
  | tick {settings : ControlSettings} {now : Nat} {here there : List Happening}
    (later : Indistinct settings here there) : Indistinct settings (.tick now :: here) (.tick now :: there)
  /-- The third axis is free, and the second one is unless the sample steers. -/
  | sample {settings : ControlSettings} {one other : AccelSample} {here there : List Happening}
    (x : one.x = other.x) (y : steers settings here = true → one.y = other.y)
    (later : Indistinct settings here there) :
    Indistinct settings (.sample one :: here) (.sample other :: there)
  | here {settings : ControlSettings} {happening : Happening} {here there : List Happening}
    (outward : happening.isOutward = true) (later : Indistinct settings here there) :
    Indistinct settings (happening :: here) there
  | there {settings : ControlSettings} {happening : Happening} {here there : List Happening}
    (outward : happening.isOutward = true) (later : Indistinct settings here there) :
    Indistinct settings here (happening :: there)

def Output.law (output : Output) : Output := { output with connected := false }

theorem direction_congr {sample sample' : Option AccelSample}
    (x : sample.map (·.x) = sample'.map (·.x)) : direction sample = direction sample' := by
  cases sample with
  | none =>
    obtain rfl := Option.map_eq_none_iff.mp x.symm
    rfl
  | some one =>
    obtain ⟨other, rfl, same⟩ := Option.map_eq_some_iff.mp x.symm
    simp only [direction, same]

theorem radius_congr (limits : RadiusLimits) {settings : ControlSettings}
    {sample sample' : Option AccelSample}
    (y : settings.tiltSteer = true → sample.map (·.y) = sample'.map (·.y)) :
    radius limits settings sample = radius limits settings sample' := by
  cases steering : settings.tiltSteer with
  | false =>
    cases sample <;> cases sample' <;> simp only [radius, steering, Bool.false_eq_true, if_false]
  | true =>
    have y := y steering
    cases sample with
    | none =>
      obtain rfl := Option.map_eq_none_iff.mp y.symm
      rfl
    | some one =>
      obtain ⟨other, rfl, same⟩ := Option.map_eq_some_iff.mp y.symm
      simp only [radius, applyTilt, same]

structure Kept where
  trim : Single
  fine : Single
  heading : UInt8

def keptAt : ControlSettings → List Happening → List Kept
  | _, [] => []
  | settings, .adjust adjustment :: rest => keptAt (settings.adjust adjustment) rest
  | settings, .tick _ :: rest => ⟨settings.trim, settings.fine, settings.heading⟩ :: keptAt settings rest
  | settings, _ :: rest => keptAt settings rest

def stored (max : Single) (preferences : Preferences) (kept : Kept) : Preferences :=
  (preferences.setInt Preferences.headingKey kept.heading.toNat).setFloat Preferences.radiusKey
    (trimRadius max kept.trim kept.fine)

namespace Session

/-- Sessions between which the control law does not tell a difference in what happens next. -/
structure Matches (one other : Session) (rest : List Happening) : Prop where
  limits : one.loop.limits = other.loop.limits
  heartbeat : one.loop.heartbeat = other.loop.heartbeat
  settings : one.settings = other.settings
  x : one.sample.map (·.x) = other.sample.map (·.x)
  y : steers one.settings rest = true → one.sample.map (·.y) = other.sample.map (·.y)

variable {one other : Session} {rest : List Happening}

theorem Matches.adjust {adjustment : Adjustment} (alike : one.Matches other (.adjust adjustment :: rest)) :
    (one.step (.adjust adjustment)).1.Matches (other.step (.adjust adjustment)).1 rest :=
  ⟨alike.limits, alike.heartbeat, congrArg (ControlSettings.adjust · adjustment) alike.settings, alike.x,
    alike.y⟩

theorem Matches.sample {measured measured' : AccelSample}
    (alike : one.Matches other (.sample measured :: rest)) (x : measured.x = measured'.x)
    (y : steers one.settings rest = true → measured.y = measured'.y) :
    (one.step (.sample measured)).1.Matches (other.step (.sample measured')).1 rest :=
  ⟨alike.limits, alike.heartbeat, alike.settings, congrArg some x, fun used => congrArg some (y used)⟩

theorem Matches.tick {now : Nat} (alike : one.Matches other (.tick now :: rest)) :
    (one.step (.tick now)).1.Matches (other.step (.tick now)).1 rest where
  limits := by rw [step_limits, step_limits, alike.limits]
  heartbeat := by rw [step_tick_heartbeat, step_tick_heartbeat, alike.heartbeat, alike.settings]
  settings := alike.settings
  x := alike.x
  y used := alike.y (Bool.or_eq_true_iff.mpr (.inr used))

theorem Matches.tick_law {now : Nat} (alike : one.Matches other (.tick now :: rest)) :
    (one.step (.tick now)).2.map Output.law = (other.step (.tick now)).2.map Output.law := by
  have radius : radius one.loop.limits other.settings one.sample =
      radius other.loop.limits other.settings other.sample := by
    rw [← alike.limits, ← alike.settings]
    exact radius_congr _ fun steering => alike.y (Bool.or_eq_true_iff.mpr (.inl steering))
  simp only [step, Loop.tick, Option.map_some, Output.law, radius, direction_congr alike.x, alike.settings,
    alike.heartbeat]

theorem Matches.here {happening : Happening} (outward : happening.isOutward = true)
    (alike : one.Matches other (happening :: rest)) : (one.step happening).1.Matches other rest := by
  cases happening with
  | link => exact ⟨alike.limits, alike.heartbeat, alike.settings, alike.x, alike.y⟩
  | storage => exact ⟨alike.limits, alike.heartbeat, alike.settings, alike.x, alike.y⟩
  | _ => cases outward

theorem Matches.there {happening : Happening} (outward : happening.isOutward = true)
    (alike : one.Matches other rest) : one.Matches (other.step happening).1 rest := by
  cases happening with
  | link => exact ⟨alike.limits, alike.heartbeat, alike.settings, alike.x, alike.y⟩
  | storage => exact ⟨alike.limits, alike.heartbeat, alike.settings, alike.x, alike.y⟩
  | _ => cases outward

theorem untouched {happening : Happening} (outward : happening.isOutward = true) (adjustment : Adjustment) :
    .adjust adjustment ≠ happening := by
  rintro rfl
  cases outward

theorem run_outward {happening : Happening} (outward : happening.isOutward = true) :
    (one.run (happening :: rest)).2 = ((one.step happening).1.run rest).2 := by
  cases happening <;> first | rfl | cases outward

theorem Matches.run {happenings : List Happening} (alike : one.Matches other rest)
    (same : Indistinct one.settings rest happenings) :
    (one.run rest).2.map Output.law = (other.run happenings).2.map Output.law := by
  generalize start : one.settings = settings at same
  induction same generalizing one other with
  | nil => rfl
  | adjust later ih =>
    subst start
    exact ih alike.adjust rfl
  | tick later ih =>
    have now := congrArg Option.toList alike.tick_law
    simp only [Session.run, List.map_append, ← Option.toList_map]
    rw [now, ih alike.tick start]
  | sample x y later ih =>
    subst start
    exact ih (alike.sample x y) rfl
  | here outward later ih =>
    rw [run_outward outward]
    exact ih (alike.here outward) ((step_settings _ (untouched outward)).trans start)
  | there outward later ih =>
    rw [run_outward outward]
    exact ih (alike.there outward) start

theorem run_preferences (session : Session) (happenings : List Happening) :
    (session.run happenings).1.loop.store.preferences =
      (keptAt session.settings happenings).foldl (stored session.loop.limits.max)
        session.loop.store.preferences := by
  induction happenings generalizing session with
  | nil => rfl
  | cons happening rest ih =>
    refine (ih (session.step happening).1).trans ?_
    cases happening with
    | tick now =>
      rw [step_limits, step_tick_preferences, remember, setFloat_preferences]
      rfl
    | _ => rfl

end Session

/--
Two sessions of the same settings, limits and interval on any stores, with histories in which the same is
adjusted and the same ticks come, and samples differ only where they are of no use. Whatever becomes of the
link and of the saves, their ticks compute the same radius, direction, heading, throttle, heartbeat and
frame.

Whatever happens, the preferences change at the ticks alone, each of which stores what follows from trim,
fine trim, heading and the greatest radius.
-/
theorem law_isolated (limits : RadiusLimits) (interval : Nat) (settings : ControlSettings)
    (store store' : Preferences.Store) {here there : List Happening}
    (same : Indistinct settings here there) :
    let start (store : Preferences.Store) : Session :=
      { loop := { limits, heartbeat := { interval }, store }, settings }
    ((start store).run here).2.map Output.law = ((start store').run there).2.map Output.law ∧
      ∀ happenings, ((start store).run happenings).1.loop.store.preferences =
        (keptAt settings happenings).foldl (stored limits.max) store.preferences := by
  intro start
  have alike : (start store).Matches (start store') here := ⟨rfl, rfl, rfl, rfl, fun _ => rfl⟩
  exact ⟨alike.run same, (start store).run_preferences⟩

/-- The first sample is of no use sideways, as tilt steering comes later. -/
def connectedHistory : List Happening :=
  [.link true, .sample ⟨1, 2, 3⟩, .tick 0, .adjust (.tiltSteer true), .sample ⟨0, 1, 9.8⟩, .tick 50]

def failingHistory : List Happening :=
  [.sample ⟨1, 7, 9.8⟩, .storage false, .tick 0, .adjust (.tiltSteer true), .sample ⟨0, 1, 3⟩, .link true,
    .tick 50]

theorem failingHistory_isolated :
    let start (store : Preferences.Store) : Session :=
      { loop := { limits := {}, heartbeat := { interval := 400 }, store }, settings := {} }
    let changed : Preferences.Store :=
      { preferences := Preferences.setInt {} Preferences.headingKey 7, dirty := true }
    Indistinct {} connectedHistory failingHistory ∧
      ((start {}).run connectedHistory).2.map Output.law =
        ((start changed).run failingHistory).2.map Output.law := by
  intro start changed
  have idle : ¬steers {} [.tick 0, .adjust (.tiltSteer true), .sample ⟨0, 1, 9.8⟩, .tick 50] = true := by
    decide
  have same : Indistinct {} connectedHistory failingHistory :=
    .here rfl <| .sample rfl (absurd · idle) <| .there rfl <| .tick <| .adjust <|
      .sample rfl (fun _ => rfl) <| .there rfl <| .tick .nil
  exact ⟨same, (law_isolated {} 400 {} {} changed same).1⟩

end SpinnerRemote.Control
