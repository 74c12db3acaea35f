import SpinnerRemote.Link.Machine
import SpinnerRemote.Proofs.Console.Session
import SpinnerRemote.Proofs.Text.Utf8

/-!
One input in many orders. What the operator types and what comes of the link reach a console in any order,
and some of the events may still wait when the session ends. `schedules_agree` shows that nothing but the
order in which things are shown depends on it.
-/
namespace SpinnerRemote.Console

/-- What a session takes, each with what the control loop computed last, and the events that wait when it
has ended. -/
structure Schedule where
  inputs : List (Option Control.Output × Input)
  waiting : List Link.AppEvent

/-- In this order a session is given these lines, ends, and has been sent these events by then. -/
structure Schedule.Delivers (schedule : Schedule) (start : Session) (lines : List String)
    (events : List Link.AppEvent) : Prop where
  reads : linesOf (bytesOf (schedule.inputs.map Prod.snd)) (isClosed (schedule.inputs.map Prod.snd)) =
    lines.map (·.toUTF8.toList)
  hears : eventsOf (start.taken schedule.inputs) ++ schedule.waiting = events
  ends : (start.follow schedule.inputs).1.isRunning = false

def Effect.request? : Effect → Option Link.Event
  | .scan => some .scan
  | .disconnect => some .disconnect
  | _ => none

def Effect.sample? : Effect → Option AccelSample
  | .sample taken => some taken
  | _ => none

def Effect.refusal? : Effect → Option CommandError
  | .refusal error => some error
  | _ => none

def Reading.ofText (text : String) : Reading := .ofLine text.toUTF8.toList

/-- What the lines and the events of a session come to, whatever their order. -/
structure Yields (settings : ControlSettings) (dashboard : Dashboard) (lines : List String)
    (events : List Link.AppEvent) (after : Session × List Effect) : Prop where
  settings : after.1.settings = (handled (lines.map .ofText)).foldl Reading.settings settings
  answers : answersOf after.2 = (handled (lines.map .ofText)).flatMap Reading.answers
  ending : after.1.ending = some (((lines.map .ofText).findSome? Reading.ending?).getD .endOfInput)
  ofLink : after.1.dashboard.ofLink = events.foldl Dashboard.apply dashboard.ofLink
  notices : after.2.filterMap Effect.notice? = events.filterMap Dashboard.shown

/-- A view of effects that sees neither messages nor the text of dashboards sees the answers only. -/
theorem filterMap_answersOf {α : Type} {view : Effect → Option α}
    (blind : ∀ message, view (.notice message) = none) (plain : ∀ effect, view effect.bare = view effect)
    (effects : List Effect) : (answersOf effects).filterMap view = effects.filterMap view := by
  rw [answersOf, List.filterMap_map, List.filterMap_filter]
  refine List.filterMap_congr fun effect _ => ?_
  cases effect with
  | notice message => exact (blind message).symm
  | _ => exact plain _

theorem ending_of_text {text : String} {ending : Ending}
    (ends : (Reading.ofText text).ending? = some ending) : ending = .quit := by
  rw [Reading.ofText, Reading.ofLine, Utf8.decode_toUTF8] at ends
  simp only at ends
  split at ends
  · cases ends
  · split at ends
    next command _ =>
      cases command <;> cases ends
      rfl
    next => cases ends

theorem ending_of_texts {lines : List String} {ending : Ending}
    (ends : (lines.map Reading.ofText).findSome? Reading.ending? = some ending) : ending = .quit := by
  obtain ⟨reading, member, ends⟩ := List.exists_of_findSome?_eq_some ends
  obtain ⟨text, -, rfl⟩ := List.mem_map.mp member
  exact ending_of_text ends

theorem Schedule.Delivers.yields {schedule : Schedule} {settings : ControlSettings}
    {dashboard : Dashboard} {lines : List String} {events : List Link.AppEvent}
    (delivers : schedule.Delivers { settings, dashboard } lines events) :
    Yields settings dashboard lines events
      (({ settings, dashboard } : Session).run schedule.inputs schedule.waiting) := by
  let start : Session := { settings, dashboard }
  have readings : readingsOf [] (schedule.inputs.map Prod.snd) = lines.map .ofText := by
    rw [readingsOf, List.nil_append, delivers.reads, List.map_map]
    rfl
  have follows := follow_readings schedule.inputs start rfl (by simp [start])
  have ending : (start.follow schedule.inputs).1.ending =
      some (((lines.map .ofText).findSome? Reading.ending?).getD .endOfInput) := by
    have ended := delivers.ends
    have reached := follows.ending
    rw [List.reverse_nil, readings] at reached
    rw [Session.isRunning, reached] at ended
    rw [reached]
    cases found : (lines.map Reading.ofText).findSome? Reading.ending? with
    | some ending => rfl
    | none =>
      cases closed : isClosed (schedule.inputs.map Prod.snd) with
      | true => rfl
      | false =>
        rw [found, closed] at ended
        cases ended
  -- No text is unreadable, so the session returns in good order and takes what waits.
  have drained : (start.follow schedule.inputs).1.drained schedule.waiting = schedule.waiting := by
    rw [Session.drained, ending]
    cases ends : (lines.map Reading.ofText).findSome? Reading.ending? with
    | none => rfl
    | some ending =>
      rw [ending_of_texts ends]
      rfl
  have heard := (follow_hears schedule.inputs start).append
    (conclude_hears (start.follow schedule.inputs).1 schedule.waiting)
  rw [drained, delivers.hears] at heard
  refine ⟨?_, ?_, ending, heard.ofLink, heard.notices⟩
  · rw [← readings]
    exact follows.changed
  · rw [← readings]
    simp only [Session.run, answersOf_append, Session.conclude, answersOf_notices, List.append_nil]
    exact follows.answers

/--
Over two schedules with the same lines and the same events a session ends with the same settings and the
same view of the link, and has asked the same of the link, fed the same samples, shown the same messages,
and refused the same commands. What it ends with is what the lines alone and the events alone come to, so
neither a quit nor the end of the input loses, doubles or reorders any of them.
-/
theorem schedules_agree (settings : ControlSettings) (dashboard : Dashboard) (lines : List String)
    (events : List Link.AppEvent) (first second : Schedule)
    (one : first.Delivers { settings, dashboard } lines events)
    (other : second.Delivers { settings, dashboard } lines events) :
    let start : Session := { settings, dashboard }
    let here := start.run first.inputs first.waiting
    let there := start.run second.inputs second.waiting
    here.1.settings = there.1.settings ∧
    here.2.filterMap Effect.request? = there.2.filterMap Effect.request? ∧
    here.2.filterMap Effect.sample? = there.2.filterMap Effect.sample? ∧
    here.2.filterMap Effect.notice? = there.2.filterMap Effect.notice? ∧
    here.2.filterMap Effect.refusal? = there.2.filterMap Effect.refusal? ∧
    here.1.dashboard.link = there.1.dashboard.link ∧
    here.1.dashboard.status = there.1.dashboard.status ∧
    here.1.dashboard.telemetry = there.1.dashboard.telemetry ∧
    Yields settings dashboard lines events here := by
  intro start here there
  have yields : Yields settings dashboard lines events here := one.yields
  have likewise : Yields settings dashboard lines events there := other.yields
  have answers : answersOf here.2 = answersOf there.2 := yields.answers.trans likewise.answers.symm
  have same {α : Type} (view : Effect → Option α) (blind : ∀ message, view (.notice message) = none)
      (plain : ∀ effect, view effect.bare = view effect) :
      here.2.filterMap view = there.2.filterMap view := by
    rw [← filterMap_answersOf blind plain, answers, filterMap_answersOf blind plain]
  obtain ⟨link, status, telemetry, -⟩ := Dashboard.mk.inj (yields.ofLink.trans likewise.ofLink.symm)
  refine ⟨yields.settings.trans likewise.settings.symm, ?_, ?_,
    yields.notices.trans likewise.notices.symm, ?_, link, status, telemetry, yields⟩
  · exact same Effect.request? (fun _ => rfl) (fun effect => by cases effect <;> rfl)
  · exact same Effect.sample? (fun _ => rfl) (fun effect => by cases effect <;> rfl)
  · exact same Effect.refusal? (fun _ => rfl) (fun effect => by cases effect <;> rfl)

def script : List String :=
  ["throttle 30", "", "bogus", "tilt 0.5 0", "scan", "disconnect", "quit", "throttle 90"]

def linkNews : List Link.AppEvent := [.state .scanning, .note .info "Scanning...", .state .idle]

def eager : Schedule where
  inputs := typing
    "throttle 30\n\nbogus\ntilt 0.5 0\nscan\ndisconnect\nquit\nthrottle 90\n".toUTF8.toList
  waiting := linkNews

def mixed : Schedule where
  inputs :=
    [(none, .event (.state .scanning))] ++ typing "throttle 30\r\n\r\nbog".toUTF8.toList ++
      [(none, .event (.note .info "Scanning..."))] ++
      typing "us\r\ntilt 0.5 0\r\nscan\r\ndisconnect\r\nquit\r\nthrottle 90".toUTF8.toList ++
      [(none, .endOfInput)]
  waiting := [.state .idle]

theorem eager_mixed_agree :
    eager.Delivers {} script linkNews ∧ mixed.Delivers {} script linkNews ∧
      (({} : Session).run eager.inputs eager.waiting).1.settings.throttle = 30 ∧
      (({} : Session).run mixed.inputs mixed.waiting).1.settings.throttle = 30 ∧
      (({} : Session).run mixed.inputs mixed.waiting).2.filterMap Effect.request? =
        [.scan, .disconnect] := by
  have early : eager.Delivers {} script linkNews :=
    ⟨by decide +kernel, by decide +kernel, by decide +kernel⟩
  have late : mixed.Delivers {} script linkNews :=
    ⟨by decide +kernel, by decide +kernel, by decide +kernel⟩
  have agree := schedules_agree {} {} script linkNews eager mixed early late
  have throttle : (({} : Session).run eager.inputs eager.waiting).1.settings.throttle = 30 := by
    decide +kernel
  have requests : (({} : Session).run eager.inputs eager.waiting).2.filterMap Effect.request? =
      [.scan, .disconnect] := by decide +kernel
  exact ⟨early, late, throttle, agree.1 ▸ throttle, agree.2.1 ▸ requests⟩

end SpinnerRemote.Console
