import SpinnerRemote.Console.Session

/-!
What becomes of everything that is typed at a console, whatever comes from the link in between.

The lines are those of the bytes alone. `session_takes_lines` shows that they are taken in their order, one
after the other, until one ends the session, and that the events are taken beside them, up to those that
wait when it has ended. A line that is not UTF-8 ends the session as well; then nothing more is taken.
-/
namespace SpinnerRemote.Console

/-! The lines of the input. -/

def Input.byte? : Input → Option UInt8
  | .byte typed => some typed
  | _ => none

def Input.event? : Input → Option Link.AppEvent
  | .event heard => some heard
  | _ => none

def bytesOf (inputs : List Input) : List UInt8 :=
  (inputs.takeWhile (· ≠ .endOfInput)).filterMap Input.byte?

def isClosed (inputs : List Input) : Bool :=
  inputs.any fun
    | .endOfInput => true
    | _ => false

def eventsOf (inputs : List Input) : List Link.AppEvent := inputs.filterMap Input.event?

def chomp (line : List UInt8) : List UInt8 :=
  if line.getLast? = some 13 then line.dropLast else line

/-- The lines of some bytes. What is left at the end is one if the input is closed there. -/
def linesOf (bytes : List UInt8) (closed : Bool) : List (List UInt8) :=
  let pieces := bytes.splitOn 10
  pieces.dropLast.map chomp ++ (pieces.getLast?.filter fun last => closed && !last.isEmpty).toList

inductive Reading where
  | blank
  | command (command : Command)
  | refused (error : CommandError)
  | unreadable (fault : Utf8.Fault)
  deriving DecidableEq

namespace Reading

def ofLine (line : List UInt8) : Reading :=
  match Utf8.decode line with
  | .error fault => .unreadable fault
  | .ok text =>
    if Text.isBlankText text.toList then .blank
    else
      match Command.parse text.toList with
      | .ok given => .command given
      | .error error => .refused error

def ending? : Reading → Option Ending
  | .command .quit => some .quit
  | .unreadable fault => some (.unreadable fault)
  | _ => none

end Reading

/-- The readings up to the first that ends the session, that one included. -/
def handled (readings : List Reading) : List Reading :=
  readings.take (readings.findIdx (·.ending?.isSome) + 1)

/-- An effect without the text of a dashboard, which tells of the link and the loop as well. -/
def Effect.bare : Effect → Effect
  | .dashboard _ => .dashboard ""
  | effect => effect

def Effect.notice? : Effect → Option Link.StatusMessage
  | .notice message => some message
  | _ => none

def answersOf (effects : List Effect) : List Effect :=
  (effects.filter (·.notice?.isNone)).map Effect.bare

def Reading.settings (settings : ControlSettings) : Reading → ControlSettings
  | .command given => (({ settings } : Session).execute none given).1.settings
  | _ => settings

def Reading.answers : Reading → List Effect
  | .command given => answersOf (({} : Session).execute none given).2
  | .refused error => [.refusal error]
  | _ => []

def Dashboard.ofLink (dashboard : Dashboard) : Dashboard := { dashboard with output := none }

namespace Session

def follow (session : Session) : List (Option Control.Output × Input) → Session × List Effect
  | [] => (session, [])
  | (output, input) :: rest =>
    let (next, effects) := session.step output input
    let (final, more) := next.follow rest
    (final, effects ++ more)

def taken (session : Session) : List (Option Control.Output × Input) → List Input
  | [] => []
  | (output, input) :: rest =>
    if session.isRunning then input :: (session.step output input).1.taken rest else []

def run (session : Session) (inputs : List (Option Control.Output × Input))
    (waiting : List Link.AppEvent) : Session × List Effect :=
  let (final, effects) := session.follow inputs
  let (closed, more) := final.conclude waiting
  (closed, effects ++ more)

end Session

theorem linesOf_line {line : List UInt8} (whole : 10 ∉ line) (rest : List UInt8) (closed : Bool) :
    linesOf (line ++ 10 :: rest) closed = chomp line :: linesOf rest closed := by
  have pieces : (line ++ 10 :: rest).splitOn 10 = line :: rest.splitOn 10 :=
    List.splitOn_append_cons_self_of_not_mem whole rest
  have more : rest.splitOn 10 ≠ [] := List.splitOn_ne_nil 10 rest
  obtain ⟨first, others, split⟩ := List.exists_cons_of_ne_nil more
  simp [linesOf, pieces, split]

theorem linesOf_rest {rest : List UInt8} (whole : 10 ∉ rest) (closed : Bool) :
    linesOf rest closed = if closed && !rest.isEmpty then [rest] else [] := by
  have pieces : rest.splitOn 10 = [rest] := List.splitOn_eq_singleton whole
  simp only [linesOf, pieces]
  split <;> simp_all [Option.filter]

theorem lineBytes_eq (typed : List UInt8) : Session.lineBytes typed = chomp typed.reverse := by
  cases typed with
  | nil => rfl
  | cons last before =>
    unfold Session.lineBytes chomp
    split <;> simp_all

/-! One line. -/

structure Handles (session : Session) (reading : Reading) (after : Session × List Effect) : Prop where
  settings : after.1.settings = reading.settings session.settings
  typed : after.1.typed = session.typed
  ending : after.1.ending = reading.ending?
  ofLink : after.1.dashboard.ofLink = session.dashboard.ofLink
  answers : answersOf after.2 = reading.answers
  notices : after.2.filterMap Effect.notice? = []

theorem execute_handles {session : Session} (running : session.ending = none)
    (output : Option Control.Output) (command : Command) :
    Handles session (.command command) (session.execute output command) := by
  cases command <;> constructor <;>
    simp [Session.execute, Reading.settings, Reading.answers, Reading.ending?, running, answersOf,
      Dashboard.ofLink, Effect.notice?, Effect.bare]

theorem takeLine_handles (session : Session) (running : session.ending = none)
    (output : Option Control.Output) (line : List UInt8) :
    Handles session (.ofLine line) (session.takeLine output line) := by
  unfold Session.takeLine Reading.ofLine
  cases Utf8.decode line with
  | error fault => constructor <;> rfl
  | ok text =>
    simp only
    split
    · constructor <;> simp [running, Reading.settings, Reading.answers, Reading.ending?, answersOf]
    · cases Command.parse text.toList with
      | ok command => exact execute_handles running output command
      | error error =>
        constructor <;>
          simp [running, Reading.settings, Reading.answers, Reading.ending?, answersOf, Effect.notice?,
            Effect.bare]

/-! A run. -/

/-- What came of some lines in a session, where the input may be closed after them. -/
structure Follows (settings : ControlSettings) (readings : List Reading) (closed : Bool)
    (after : Session × List Effect) : Prop where
  changed : after.1.settings = (handled readings).foldl Reading.settings settings
  answers : answersOf after.2 = (handled readings).flatMap Reading.answers
  ending : after.1.ending =
    (readings.findSome? Reading.ending?).or (if closed then some .endOfInput else none)

theorem handled_of_ends {reading : Reading} {ending : Ending} (ends : reading.ending? = some ending)
    (readings : List Reading) : handled (reading :: readings) = [reading] := by
  simp [handled, List.findIdx_cons, ends]

theorem handled_of_goes_on {reading : Reading} (goesOn : reading.ending? = none)
    (readings : List Reading) : handled (reading :: readings) = reading :: handled readings := by
  simp [handled, List.findIdx_cons, goesOn]

theorem answersOf_append (effects more : List Effect) :
    answersOf (effects ++ more) = answersOf effects ++ answersOf more := by
  simp [answersOf]

theorem answersOf_notices (messages : List Link.StatusMessage) :
    answersOf (messages.map .notice) = [] := by
  simp [answersOf, Effect.notice?]

namespace Session

theorem follow_ended {session : Session} {ending : Ending} (ended : session.ending = some ending)
    (inputs : List (Option Control.Output × Input)) : session.follow inputs = (session, []) := by
  induction inputs with
  | nil => rfl
  | cons first rest ih => simp [follow, step, isRunning, ended, ih]

theorem steps_eq_follow (session : Session) (output : Option Control.Output) (inputs : List Input) :
    session.steps output inputs = session.follow (inputs.map (output, ·)) := by
  have general (effects : List Effect) :
      inputs.foldl (fun (session, effects) input =>
          let (next, more) := session.step output input
          (next, effects ++ more)) (session, effects) =
        ((session.follow (inputs.map (output, ·))).1,
          effects ++ (session.follow (inputs.map (output, ·))).2) := by
    induction inputs generalizing session effects with
    | nil => simp [follow]
    | cons input rest ih => simp [follow, ih]
  exact (general []).trans (by simp)

theorem follow_take {session : Session} (running : session.ending = none)
    (output : Option Control.Output) (input : Input) (rest : List (Option Control.Output × Input)) :
    session.follow ((output, input) :: rest) =
      (((session.take output input).1.follow rest).1,
        (session.take output input).2 ++ ((session.take output input).1.follow rest).2) := by
  simp [follow, step, isRunning, running]

end Session

theorem Handles.follows {session : Session} {reading : Reading} {after : Session × List Effect}
    (first : Handles session reading after) {readings : List Reading} {closed : Bool}
    {inputs : List (Option Control.Output × Input)}
    (rest : after.1.ending = none → Follows after.1.settings readings closed (after.1.follow inputs)) :
    Follows session.settings (reading :: readings) closed
      ((after.1.follow inputs).1, after.2 ++ (after.1.follow inputs).2) := by
  cases ends : reading.ending? with
  | some ending =>
    rw [Session.follow_ended (first.ending.trans ends)]
    constructor
    · simp [handled_of_ends ends, first.settings]
    · simp [handled_of_ends ends, first.answers]
    · simp [ends, first.ending]
  | none =>
    have rest := rest (first.ending.trans ends)
    constructor
    · simp [handled_of_goes_on ends, rest.changed, first.settings]
    · simp [handled_of_goes_on ends, answersOf_append, rest.answers, first.answers]
    · simp [ends, rest.ending]

theorem Follows.later {settings : ControlSettings} {readings : List Reading} {closed : Bool}
    {after : Session × List Effect} {effects : List Effect} (rest : Follows settings readings closed after)
    (quiet : answersOf effects = []) : Follows settings readings closed (after.1, effects ++ after.2) := by
  constructor
  · exact rest.changed
  · simpa [answersOf_append, quiet] using rest.answers
  · exact rest.ending

/-- What is typed, line by line; of the first line some bytes may have been there before. -/
def readingsOf (before : List UInt8) (inputs : List Input) : List Reading :=
  (linesOf (before ++ bytesOf inputs) (isClosed inputs)).map .ofLine

section Readings

variable {before : List UInt8} (rest : List Input)

theorem readingsOf_nil (whole : 10 ∉ before) : readingsOf before [] = [] := by
  simp [readingsOf, bytesOf, isClosed, linesOf_rest whole]

theorem readingsOf_byte (typed : UInt8) :
    readingsOf before (.byte typed :: rest) = readingsOf (before ++ [typed]) rest := by
  simp [readingsOf, bytesOf, isClosed, Input.byte?]

theorem readingsOf_lineFeed (whole : 10 ∉ before) :
    readingsOf before (.byte 10 :: rest) = .ofLine (chomp before) :: readingsOf [] rest := by
  simp [readingsOf, bytesOf, isClosed, Input.byte?, linesOf_line whole]

theorem readingsOf_event (event : Link.AppEvent) :
    readingsOf before (.event event :: rest) = readingsOf before rest := by
  have none : Input.byte? (.event event) = none := rfl
  simp [readingsOf, bytesOf, isClosed, none]

theorem readingsOf_endOfInput (whole : 10 ∉ before) : readingsOf before (.endOfInput :: rest) =
    if before.isEmpty then [] else [.ofLine before] := by
  cases empty : before.isEmpty <;> simp [readingsOf, bytesOf, isClosed, linesOf_rest whole, empty]

end Readings

theorem follow_readings (inputs : List (Option Control.Output × Input)) (session : Session)
    (running : session.ending = none) (whole : 10 ∉ session.typed.reverse) :
    Follows session.settings (readingsOf session.typed.reverse (inputs.map Prod.snd))
      (isClosed (inputs.map Prod.snd)) (session.follow inputs) := by
  -- What is typed of the open line stands for bytes that are still to be read, so a byte that does not end
  -- it changes the session but no reading.
  induction inputs generalizing session with
  | nil =>
    have none : readingsOf session.typed.reverse [] = [] := readingsOf_nil whole
    constructor <;> simp [none, isClosed, handled, Session.follow, running, answersOf]
  | cons first rest ih =>
    obtain ⟨output, input⟩ := first
    rw [Session.follow_take running, List.map_cons]
    cases input with
    | event event =>
      have quiet : answersOf ((Dashboard.shown event).map Effect.notice).toList = [] := by
        rw [Option.toList_map, answersOf_notices]
      have rest := ih (session.take output (.event event)).1 running whole
      rw [readingsOf_event]
      exact rest.later quiet
    | byte typed =>
      by_cases ends : typed = 10
      · subst ends
        have line := takeLine_handles { session with typed := [] } running output
          (chomp session.typed.reverse)
        have rest := line.follows fun goesOn => ih _ goesOn (by simp [line.typed])
        simp only [line.typed] at rest
        rw [readingsOf_lineFeed _ whole, Session.take, if_pos rfl, lineBytes_eq]
        exact rest
      · have longer : 10 ∉ session.typed.reverse ++ [typed] := by simpa [Ne.symm ends] using whole
        have rest := ih { session with typed := typed :: session.typed } running (by simpa using longer)
        rw [readingsOf_byte, Session.take, if_neg ends, ← List.reverse_cons]
        exact rest
    | endOfInput =>
      have ended : (session.take output .endOfInput).1.ending.isSome := by simp [Session.take]
      obtain ⟨ending, ended⟩ := Option.isSome_iff_exists.mp ended
      rw [Session.follow_ended ended, readingsOf_endOfInput _ whole, List.isEmpty_reverse]
      cases empty : session.typed.isEmpty with
      | true => constructor <;> simp [Session.take, empty, running, handled, isClosed, answersOf]
      | false =>
        have line := takeLine_handles { session with typed := [] } running output
          session.typed.reverse
        constructor <;>
          simp [Session.take, empty, handled, isClosed, line.settings, line.answers, line.ending]

/-! What is heard of the link. -/

theorem Dashboard.ofLink_foldl (dashboard : Dashboard) (events : List Link.AppEvent) :
    (events.foldl apply dashboard).ofLink = events.foldl apply dashboard.ofLink := by
  induction events generalizing dashboard with
  | nil => rfl
  | cons event rest ih =>
    rw [List.foldl_cons, List.foldl_cons, ih]
    cases event <;> rfl

structure Hears (dashboard : Dashboard) (events : List Link.AppEvent) (after : Session × List Effect) :
    Prop where
  ofLink : after.1.dashboard.ofLink = events.foldl Dashboard.apply dashboard.ofLink
  notices : after.2.filterMap Effect.notice? = events.filterMap Dashboard.shown

theorem Handles.hears {session : Session} {reading : Reading} {after : Session × List Effect}
    (line : Handles session reading after) : Hears session.dashboard [] after :=
  ⟨line.ofLink, line.notices⟩

theorem take_hears {session : Session} (running : session.ending = none)
    (output : Option Control.Output) (input : Input) :
    Hears session.dashboard (eventsOf [input]) (session.take output input) := by
  cases input with
  | byte typed =>
    have none : eventsOf [.byte typed] = [] := rfl
    rw [none, Session.take]
    split
    · exact (takeLine_handles { session with typed := [] } running output _).hears
    · exact ⟨rfl, rfl⟩
  | endOfInput =>
    have none : eventsOf [.endOfInput] = [] := rfl
    have line := takeLine_handles { session with typed := [] } running output
      session.typed.reverse
    cases empty : session.typed.isEmpty with
    | true =>
      rw [none, Session.take, empty]
      exact ⟨rfl, rfl⟩
    | false =>
      rw [none, Session.take, empty]
      exact ⟨line.ofLink, line.notices⟩
  | event event =>
    have one : eventsOf [.event event] = [event] := rfl
    constructor
    · exact Dashboard.ofLink_foldl session.dashboard [event]
    · cases shown : Dashboard.shown event <;> simp [Session.take, one, shown, Effect.notice?]

theorem Hears.append {session : Session} {first later : List Link.AppEvent}
    {middle after : Session × List Effect} (head : Hears session.dashboard first middle)
    (tail : Hears middle.1.dashboard later after) :
    Hears session.dashboard (first ++ later) (after.1, middle.2 ++ after.2) := by
  constructor
  · rw [List.foldl_append, ← head.ofLink, tail.ofLink]
  · rw [List.filterMap_append, List.filterMap_append, head.notices, tail.notices]

theorem follow_hears (inputs : List (Option Control.Output × Input)) (session : Session) :
    Hears session.dashboard (eventsOf (session.taken inputs)) (session.follow inputs) := by
  induction inputs generalizing session with
  | nil => exact ⟨rfl, rfl⟩
  | cons first rest ih =>
    obtain ⟨output, input⟩ := first
    cases running : session.ending with
    | some ending =>
      rw [Session.follow_ended running]
      simp only [Session.taken, Session.isRunning, running]
      exact ⟨rfl, rfl⟩
    | none =>
      have taken : eventsOf (session.taken ((output, input) :: rest)) =
          eventsOf [input] ++ eventsOf ((session.take output input).1.taken rest) := by
        simp only [Session.taken, Session.step, Session.isRunning, running, Option.isNone_none, if_true,
          eventsOf, ← List.filterMap_append, List.singleton_append]
      rw [Session.follow_take running, taken]
      exact (take_hears running output input).append (ih (session.take output input).1)

theorem conclude_hears (session : Session) (waiting : List Link.AppEvent) :
    Hears session.dashboard (session.drained waiting) (session.conclude waiting) := by
  constructor
  · exact Dashboard.ofLink_foldl session.dashboard (session.drained waiting)
  · simp [Session.conclude, List.filterMap_map, Function.comp_def, Effect.notice?]

/--
A session that was opened with some settings and a dashboard, over every order of bytes and events.

Of the lines, those up to the first that ends it have been taken, each once and in their order: commands
have been carried out, blank lines have done nothing, and the others have been answered. It ends at a quit,
at a line that is not UTF-8, or with its input. The dashboard has every event that came before the end and,
unless the end was an unreadable line, those that waited then.
-/
theorem session_takes_lines (settings : ControlSettings) (dashboard : Dashboard)
    (inputs : List (Option Control.Output × Input)) (waiting : List Link.AppEvent) :
    let start : Session := { settings, dashboard }
    let readings := readingsOf [] (inputs.map Prod.snd)
    let (final, effects) := start.run inputs waiting
    let heard := eventsOf (start.taken inputs) ++ final.drained waiting
    final.settings = (handled readings).foldl Reading.settings settings ∧
    answersOf effects = (handled readings).flatMap Reading.answers ∧
    final.ending = (readings.findSome? Reading.ending?).or
      (if isClosed (inputs.map Prod.snd) then some .endOfInput else none) ∧
    final.dashboard.ofLink = heard.foldl Dashboard.apply dashboard.ofLink ∧
    effects.filterMap Effect.notice? = heard.filterMap Dashboard.shown := by
  intro start
  have lines := follow_readings inputs start rfl (by simp [start])
  have events := (follow_hears inputs start).append (conclude_hears (start.follow inputs).1 waiting)
  refine ⟨lines.changed, ?_, lines.ending, events.ofLink, events.notices⟩
  simp only [answersOf_append, answersOf_notices, List.append_nil]
  exact lines.answers

def typing (text : List UInt8) : List (Option Control.Output × Input) :=
  text.map fun byte => (none, .byte byte)

example :
    let text := "throttle 30\nbogus\nquit\nthrottle 90\n".toUTF8.toList
    (({} : Session).run (typing text) []).1.settings.throttle = 30 := by
  decide +kernel

/-- A command after a line that is not UTF-8 is not carried out, and an event that waits is not heard. -/
theorem unreadable_line_ends_session :
    let line := "throttle 30".toUTF8.toList
    let final := (({} : Session).run (typing ([0xFF, 10] ++ line ++ [10])) [.state .scanning]).1
    Reading.ofLine line = .command (.adjust (.throttle 30)) ∧ final.settings.throttle = 0 ∧
      final.dashboard.link = .idle ∧ final.ending = some (.unreadable (.invalid 1 0)) := by
  decide +kernel

end SpinnerRemote.Console
