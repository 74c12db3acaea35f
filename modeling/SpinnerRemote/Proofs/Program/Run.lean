import SpinnerRemote.Program
import SpinnerRemote.Proofs.Console.Session
import SpinnerRemote.Proofs.Control.Settings

/-!
Runs of the program, in which the console, the control loop and the link take their turns in any order and at
any time; what is typed at once and what happens until a time are such runs.

The settings change with the lines that are typed and with nothing else: `run_settings`.
-/
namespace SpinnerRemote

theorem Console.printed_append (effects more : List Effect) :
    printed (effects ++ more) = printed effects ++ printed more := by
  simp only [printed, List.filterMap_append, List.map_append, String.join_append]

theorem Console.Reading.settings_inRange {settings : ControlSettings} (inRange : settings.InRange)
    (reading : Reading) : (reading.settings settings).InRange := by
  cases reading with
  | command given =>
    cases given with
    | adjust adjustment => exact ControlSettings.adjust_inRange inRange adjustment
    | _ => exact inRange
  | _ => exact inRange

namespace Console.Session

def line? (session : Session) : Input → Option (List UInt8)
  | .byte byte => if byte = 10 then some (lineBytes session.typed) else none
  | .endOfInput => if session.typed.isEmpty then none else some session.typed.reverse
  | .event _ => none

def reading? (session : Session) (input : Input) : Option Reading :=
  if session.isRunning then (session.line? input).map .ofLine else none

variable {session : Session} {input : Input} (output : Option Control.Output)

theorem take_of_line {line : List UInt8} (ends : session.line? input = some line) :
    let after := { session with typed := [] }.takeLine output line
    ∃ ending, session.take output input = ({ after.1 with ending }, after.2) := by
  cases input with
  | byte byte =>
    obtain ⟨lineFeed, same⟩ := Option.ite_none_right_eq_some.mp ends
    cases same
    exact ⟨_, by rw [take, if_pos lineFeed]⟩
  | endOfInput =>
    obtain ⟨some, same⟩ := Option.ite_none_left_eq_some.mp ends
    cases same
    exact ⟨_, by rw [take, if_neg some]⟩
  | event => cases ends

theorem take_of_no_line (none : session.line? input = none) :
    (session.take output input).1.settings = session.settings ∧
      answersOf (session.take output input).2 = [] := by
  cases input with
  | byte byte =>
    have inside : byte ≠ 10 := by
      rintro rfl
      cases none
    rw [take, if_neg inside]
    exact ⟨rfl, rfl⟩
  | endOfInput =>
    have nothing : session.typed.isEmpty = true := by
      by_contra typed
      rw [line?, if_neg typed] at none
      cases none
    rw [take, if_pos nothing]
    exact ⟨rfl, rfl⟩
  | event event =>
    refine ⟨rfl, ?_⟩
    rw [take]
    cases Dashboard.shown event <;> rfl

/-- An input does what its reading says, if it ends a line, and nothing but show something otherwise. -/
theorem step_reading (session : Session) (input : Input) :
    (session.step output input).1.settings =
        (session.reading? input).toList.foldl Reading.settings session.settings ∧
      answersOf (session.step output input).2 = (session.reading? input).toList.flatMap Reading.answers := by
  unfold step reading?
  split
  next running =>
    have running : session.ending = none := Option.isNone_iff_eq_none.mp running
    cases ends : session.line? input with
    | some line =>
      obtain ⟨ending, taken⟩ := take_of_line output ends
      have handles := takeLine_handles { session with typed := [] } running output line
      rw [taken, handles.answers]
      exact ⟨handles.settings, (List.append_nil _).symm⟩
    | none => exact take_of_no_line output ends
  next => exact ⟨rfl, rfl⟩

theorem step_settings (session : Session) (input : Input) :
    (session.step output input).1.settings =
      (session.reading? input).toList.foldl Reading.settings session.settings :=
  (step_reading output session input).1

theorem steps_events (session : Session) (events : List Link.AppEvent) :
    (session.steps output (events.map .event)).1.settings = session.settings := by
  rw [steps_eq_follow]
  induction events generalizing session with
  | nil => rfl
  | cons event rest ih =>
    have heard : (session.step output (.event event)).1.settings = session.settings := by
      rw [step_settings, reading?]
      split <;> rfl
    exact (ih (session.step output (.event event)).1).trans heard

theorem steps_cons (session : Session) (first : Input) (rest : List Input) :
    session.steps output (first :: rest) =
      (((session.step output first).1.steps output rest).1,
        (session.step output first).2 ++ ((session.step output first).1.steps output rest).2) := by
  simp only [steps_eq_follow]
  rfl

end Console.Session

namespace Program

inductive Happening where
  | input (input : Console.Input)
  /-- The console takes the events that wait at its end. -/
  | conclude
  | settle
  | powerOff
  | advanceLink (limit : Nat)
  | tick
  | shutdown

def step (program : Program) : Happening → Program
  | .input input => program.input [input]
  | .conclude => program.conclude
  | .settle => program.settle
  | .powerOff => program.powerOff
  | .advanceLink limit => program.advanceLink limit
  | .tick => program.tick
  | .shutdown => program.shutdown

def run (program : Program) (happenings : List Happening) : Program := happenings.foldl step program

def reading? (program : Program) : Happening → Option Console.Reading
  | .input input => program.console.reading? input
  | _ => none

def readings (program : Program) : List Happening → List Console.Reading
  | [] => []
  | happening :: rest => (program.reading? happening).toList ++ (program.step happening).readings rest

/-! What a turn of the program leaves alone. -/

theorem foldl_perform (effects : List Console.Effect) (program : Program) :
    effects.foldl perform program = { program with
      station := (effects.foldl perform program).station
      sample := (effects.foldl perform program).sample } := by
  induction effects generalizing program with
  | nil => rfl
  | cons effect rest ih =>
    rw [List.foldl_cons, ih]
    cases effect <;> rfl

/-- Of the console and of what was printed before, what it brings about does not depend. -/
theorem foldl_perform_shown (effects : List Console.Effect) (program : Program) (console : Console.Session)
    (printed : String) :
    effects.foldl perform { program with console, printed } =
      { effects.foldl perform program with console, printed } := by
  induction effects generalizing program with
  | nil => rfl
  | cons effect rest ih =>
    rw [List.foldl_cons, List.foldl_cons, ← ih]
    cases effect <;> rfl

variable (program : Program)

theorem input_eq (inputs : List Console.Input) :
    program.input inputs =
      (program.console.steps program.output inputs).2.foldl perform { program with
        console := (program.console.steps program.output inputs).1
        printed := program.printed ++ Console.printed (program.console.steps program.output inputs).2 } :=
  rfl

theorem input_console (inputs : List Console.Input) :
    (program.input inputs).console = (program.console.steps program.output inputs).1 := by
  rw [input_eq, foldl_perform]

theorem input_output (inputs : List Console.Input) : (program.input inputs).output = program.output := by
  rw [input_eq, foldl_perform]

theorem input_printed (inputs : List Console.Input) :
    (program.input inputs).printed =
      program.printed ++ Console.printed (program.console.steps program.output inputs).2 := by
  rw [input_eq, foldl_perform]

theorem catchUp_eq : program.catchUp =
    { program.input (((program.station.events.drop program.seen).map Prod.snd).map .event) with
      seen := program.station.events.length } := by
  rw [List.map_map]
  rfl

theorem catchUp_settings : program.catchUp.console.settings = program.console.settings := by
  simp only [catchUp_eq, input_console, Console.Session.steps_events]

theorem tick_settings : program.tick.console.settings = program.console.settings :=
  (catchUp_settings _).trans (catchUp_settings _)

theorem tick_output : ∃ (loop : Control.Loop) (moment : Control.Moment),
    moment.settings = program.console.settings ∧ program.tick.output = some (loop.tick moment).2 :=
  ⟨_, _, catchUp_settings _, input_output _ _⟩

theorem step_settings (happening : Happening) :
    (program.step happening).console.settings =
      (program.reading? happening).toList.foldl Console.Reading.settings program.console.settings := by
  cases happening with
  | input input =>
    rw [step, input_console]
    exact Console.Session.step_settings _ _ _
  | conclude => rfl
  | settle => exact catchUp_settings _
  | powerOff => exact catchUp_settings _
  | advanceLink => exact catchUp_settings _
  | tick => exact program.tick_settings
  | shutdown => exact catchUp_settings _

/-- The settings after a run are what the lines that were read in it make of them. -/
theorem run_settings (happenings : List Happening) :
    (program.run happenings).console.settings =
      (program.readings happenings).foldl Console.Reading.settings program.console.settings := by
  induction happenings generalizing program with
  | nil => rfl
  | cons happening rest ih =>
    rw [readings, List.foldl_append, ← step_settings]
    exact ih _

theorem run_settings_of_silent {happenings : List Happening}
    (silent : ∀ command, .command command ∉ program.readings happenings) :
    (program.run happenings).console.settings = program.console.settings := by
  rw [run_settings]
  generalize program.readings happenings = readings at silent ⊢
  induction readings with
  | nil => rfl
  | cons reading rest ih =>
    have kept : reading.settings program.console.settings = program.console.settings := by
      cases reading with
      | command command => exact absurd List.mem_cons_self (silent command)
      | _ => rfl
    rw [List.foldl_cons, kept]
    exact ih fun command later => silent command (List.mem_cons_of_mem _ later)

theorem new_inRange (settings : Settings) (link : Link.Config) (robot : Robot.Simulator)
    (store : Preferences.Store) : (new settings link robot store).console.settings.InRange :=
  ControlSettings.load_inRange _ _

theorem run_inRange {program : Program} (inRange : program.console.settings.InRange)
    (happenings : List Happening) : (program.run happenings).console.settings.InRange := by
  rw [run_settings]
  generalize program.console.settings = settings at inRange
  induction program.readings happenings generalizing settings with
  | nil => exact inRange
  | cons reading rest ih => exact ih _ (reading.settings_inRange inRange)

/-! What is typed at once and what happens until a time are runs. -/

theorem run_append (happenings more : List Happening) :
    program.run (happenings ++ more) = (program.run happenings).run more := List.foldl_append

theorem input_cons (first : Console.Input) (rest : List Console.Input) :
    program.input (first :: rest) = (program.input [first]).input rest := by
  have one : program.console.steps program.output [first] = program.console.step program.output first :=
    rfl
  have all := program.console.steps_cons program.output first rest
  generalize program.console.step program.output first = next at one all
  generalize ended : next.1.steps program.output rest = final at all
  have later : (program.input [first]).console.steps (program.input [first]).output rest = final := by
    rw [input_console, input_output, one, ended]
  calc program.input (first :: rest)
    _ = final.2.foldl perform (next.2.foldl perform { program with
          console := final.1
          printed := program.printed ++ Console.printed (next.2 ++ final.2) }) := by
      rw [input_eq, all, List.foldl_append]
    _ = final.2.foldl perform { program.input [first] with
          console := final.1
          printed := program.printed ++ Console.printed (next.2 ++ final.2) } := by
      rw [input_eq, one, foldl_perform_shown next.2 program final.1,
        foldl_perform_shown next.2 program next.1]
    _ = (program.input [first]).input rest := by
      rw [input_eq _ rest, later, input_printed, one, Console.printed_append, String.append_assoc]

theorem input_eq_run (inputs : List Console.Input) :
    program.input inputs = program.run (inputs.map .input) := by
  induction inputs generalizing program with
  | nil => simp [input_eq, run, Console.Session.steps, Console.printed]
  | cons first rest ih =>
    rw [input_cons, ih]
    rfl

theorem type_eq_run (bytes : List UInt8) :
    program.type bytes = program.run (bytes.map (.input ∘ .byte) ++ [.settle]) := by
  rw [type, input_eq_run, run_append, List.map_map]
  rfl

theorem endInput_eq_run : program.endInput = program.run [.input .endOfInput, .conclude, .settle] := rfl

theorem finish_eq_run : program.finish = program.run [.input .endOfInput, .conclude] := rfl

theorem tickWithin_eq_run (limit count : Nat) :
    ∃ happenings, tickWithin limit count program = program.run happenings := by
  induction count generalizing program with
  | zero => exact ⟨[], rfl⟩
  | succ count ih =>
    rw [tickWithin]
    split
    · obtain ⟨happenings, ran⟩ := ih program.tick
      exact ⟨.tick :: happenings, ran⟩
    · exact ⟨[], rfl⟩

theorem advance_eq_run (limit : Nat) : ∃ happenings, program.advance limit = program.run happenings := by
  obtain ⟨ticks, ran⟩ := program.tickWithin_eq_run limit (limit + 1 - program.nextTick)
  refine ⟨ticks ++ [.advanceLink limit], ?_⟩
  rw [advance, ran, run_append]
  rfl

end Program
end SpinnerRemote
