import SpinnerRemote.Control.Session
import SpinnerRemote.Proofs.Control.Settings
import SpinnerRemote.Proofs.Preferences.Recall

/-!
What a control session keeps: the limits it was started with, settings in range, and, once it has ticked
on settings nobody touches, preferences that remember those settings.
-/
namespace SpinnerRemote.Control

/-- Preferences that give the heading and the trim radius of settings. -/
structure Remembers (preferences : Preferences) (limits : RadiusLimits) (settings : ControlSettings) :
    Prop where
  heading : preferences.getInt? Preferences.headingKey = some settings.heading.toNat
  radius : ∃ read, preferences.getFloat? Preferences.radiusKey = some read ∧ read.isFinite = true ∧
    read.value = (trimRadius limits.max settings.trim settings.fine).value

theorem setFloat_preferences (store : Preferences.Store) (key : String) (value : Single) :
    (store.setFloat key value).preferences = store.preferences.setFloat key value := by
  unfold Preferences.Store.setFloat Preferences.setFloat
  cases Preferences.floatNumber? value <;> rfl

theorem remember_remembers (store : Preferences.Store) {limits : RadiusLimits} {settings : ControlSettings}
    (finite : (trimRadius limits.max settings.trim settings.fine).isFinite = true) :
    Remembers (remember store limits settings).preferences limits settings := by
  unfold remember
  rw [setFloat_preferences]
  constructor
  · have byte := settings.heading.toNat_lt
    have limit : Json.NumberText.signedLimit = 2 ^ 63 := by decide
    rw [Preferences.getInt?_setFloat_of_ne _ (by decide)]
    exact Preferences.getInt?_setInt _ _ (by omega) (by omega)
  · exact Preferences.getFloat?_setFloat _ _ finite

namespace Session

variable (session : Session)

theorem step_limits (happening : Happening) :
    (session.step happening).1.loop.limits = session.loop.limits := by
  cases happening with
  | tick now =>
    simp only [step]
    split <;> rfl
  | _ => rfl

theorem run_limits (happenings : List Happening) :
    (session.run happenings).1.loop.limits = session.loop.limits := by
  induction happenings generalizing session with
  | nil => rfl
  | cons happening rest ih => exact (ih _).trans (session.step_limits happening)

theorem step_inRange {session : Session} (inRange : session.settings.InRange) (happening : Happening) :
    (session.step happening).1.settings.InRange := by
  cases happening with
  | adjust adjustment => exact ControlSettings.adjust_inRange inRange adjustment
  | _ => exact inRange

theorem run_inRange {session : Session} (inRange : session.settings.InRange)
    (happenings : List Happening) : (session.run happenings).1.settings.InRange := by
  induction happenings generalizing session with
  | nil => exact inRange
  | cons happening rest ih => exact ih (step_inRange inRange happening)

theorem step_settings {happening : Happening} (untouched : ∀ adjustment, .adjust adjustment ≠ happening) :
    (session.step happening).1.settings = session.settings := by
  cases happening with
  | adjust adjustment => exact absurd rfl (untouched adjustment)
  | _ => rfl

theorem step_tick_preferences (now : Nat) :
    (session.step (.tick now)).1.loop.store.preferences =
      (remember session.loop.store session.loop.limits session.settings).preferences := by
  simp only [step]
  split <;> rfl

theorem step_tick_heartbeat (now : Nat) :
    (session.step (.tick now)).1.loop.heartbeat =
      session.loop.heartbeat.tick now (session.settings.heartbeat && session.settings.foreground) := by
  simp only [step]
  split <;> rfl

theorem step_remembers
    (finite : (trimRadius session.loop.limits.max session.settings.trim
      session.settings.fine).isFinite = true)
    (happening : Happening)
    (known : Remembers session.loop.store.preferences session.loop.limits session.settings ∨
      ∃ now, happening = .tick now) :
    Remembers (session.step happening).1.loop.store.preferences session.loop.limits session.settings := by
  cases happening with
  | tick now =>
    rw [step_tick_preferences]
    exact remember_remembers _ finite
  | _ =>
    obtain remembered | ⟨now, ticked⟩ := known
    · exact remembered
    · cases ticked

/-- While nobody touches the settings they stay, and once a tick has stored them they are remembered. -/
theorem run_remembers {later : List Happening} (untouched : ∀ adjustment, .adjust adjustment ∉ later)
    (finite : (trimRadius session.loop.limits.max session.settings.trim
      session.settings.fine).isFinite = true)
    (known : Remembers session.loop.store.preferences session.loop.limits session.settings ∨
      ∃ now, .tick now ∈ later) :
    Remembers (session.run later).1.loop.store.preferences session.loop.limits session.settings := by
  induction later generalizing session with
  | nil =>
    obtain remembered | ⟨now, ticked⟩ := known
    · exact remembered
    · cases ticked
  | cons happening rest ih =>
    have limits := session.step_limits happening
    have settings : (session.step happening).1.settings = session.settings :=
      session.step_settings fun adjustment touched => untouched adjustment (touched ▸ List.mem_cons_self)
    have next : Remembers (session.step happening).1.loop.store.preferences session.loop.limits
        session.settings ∨ ∃ now, .tick now ∈ rest := by
      obtain remembered | ⟨now, ticked⟩ := known
      · exact .inl (session.step_remembers finite happening (.inl remembered))
      · obtain first | later := List.mem_cons.mp ticked
        · exact .inl (session.step_remembers finite happening (.inr ⟨now, first.symm⟩))
        · exact .inr ⟨now, later⟩
    rw [← limits, ← settings] at finite next ⊢
    exact ih _ (fun adjustment later => untouched adjustment (List.mem_cons_of_mem _ later)) finite next

end Session
end SpinnerRemote.Control
