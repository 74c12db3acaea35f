import SpinnerRemote.Proofs.Console.Grammar
import SpinnerRemote.Proofs.Program.Run
import SpinnerRemote.Proofs.Station.Coupling

/-!
What is typed is stored and sent. The bounds of the grammar, of the settings and of the frame agree, so that a
number that one of them lets through is left as it is by the others: `typed_is_stored_and_sent`.
-/
namespace SpinnerRemote

namespace Console

namespace Command

open Numeral (Spells)

/-- The settings hold what a word says of a knob. -/
def Holds (settings : ControlSettings) (word : List Char) : Knob → Prop
  | .trim => ∃ n, Spells word n ∧ settings.trim = Binary.ofNat n / Binary.ofNat 1000
  | .fine => ∃ n, Spells word n ∧ settings.fine = (Binary.ofNat n / Binary.ofNat 1000 - 0.5) * 0.3
  | .throttle => Spells word settings.throttle.toNat
  | .heading => Spells word settings.heading.toNat
  | .tiltSteer => Switches word settings.tiltSteer
  | .heartbeat => Switches word settings.heartbeat
  | .foreground => Switches word settings.foreground

def IsStep (adjustment : Adjustment) : Prop := adjustment = .headingUp ∨ adjustment = .headingDown

theorem Accepts.knob_eq {knob : Knob} {word : List Char} {adjustment : Adjustment}
    (accepts : Accepts knob word adjustment) : adjustment.knob = knob := by
  cases accepts <;> rfl

/-- Neither the cap nor the ring changes a number that the grammar accepts. -/
theorem Accepts.holds {knob : Knob} {word : List Char} {adjustment : Adjustment}
    (accepts : Accepts knob word adjustment) (settles : ¬IsStep adjustment) (settings : ControlSettings) :
    Holds (settings.adjust adjustment) word knob := by
  cases accepts with
  | trim spells small => exact ⟨_, spells, ControlSettings.sliderFraction_of_le small⟩
  | fine spells small =>
    refine ⟨_, spells, ?_⟩
    rw [ControlSettings.adjust, ControlSettings.sliderFraction_of_le small]
    rfl
  | @throttle _ n spells small =>
    have kept : min n throttleMax = n := Std.LawfulOrderLeftLeaningMin.min_eq_left _ _ small
    simpa only [Holds, ControlSettings.adjust, kept] using spells
  | @heading _ n spells small =>
    have onRing : n < headingRange := UInt8.lt_of_le_of_lt small (by decide)
    have kept : n % headingRange = n := UInt8.mod_eq_of_lt onRing
    simpa only [Holds, ControlSettings.adjust, kept] using spells
  | headingUp => exact absurd (.inl rfl) settles
  | headingDown => exact absurd (.inr rfl) settles
  | tiltSteer switches => exact switches
  | heartbeat switches => exact switches
  | foreground switches => exact switches

theorem words_of_adjust {line : List Char} {adjustment : Adjustment}
    (parsed : parse line = .ok (.adjust adjustment)) :
    ∃ first word rest, Text.pieces line = first :: word :: rest ∧
      Names adjustment.knob.command first ∧ Accepts adjustment.knob word adjustment := by
  have means := parse_eq_iff.mp parsed
  rw [Text.words_eq_pieces] at means
  generalize Text.pieces line = words at means ⊢
  cases means with
  | plain listed => simp [plainCommands] at listed
  | @accepted knob _ first word rest named accepts =>
    obtain rfl := accepts.knob_eq
    exact ⟨first, word, rest, rfl, named, accepts⟩

end Command

namespace Session

variable (session : Session) (output : Option Control.Output) {line : List UInt8}

theorem takeLine_accepted {text : String} {command : Command} (decoded : Utf8.decode line = .ok text)
    (parsed : Command.parse text.toList = .ok command) :
    session.takeLine output line = session.execute output command := by
  have some : ¬Text.isBlankText text.toList = true := fun blank => by
    rw [Command.parse_eq_empty_iff.mpr blank] at parsed
    cases parsed
  simp only [takeLine, decoded, if_neg some, parsed]

theorem takeLine_rejected (rejected : ∀ text command, Utf8.decode line = .ok text →
      Command.parse text.toList ≠ .ok command) :
    ∃ (ending : Option Ending) (answers : List CommandError),
      session.takeLine output line = ({ session with ending }, answers.map .refusal) := by
  unfold takeLine
  cases decoded : Utf8.decode line with
  | error fault => exact ⟨_, [], rfl⟩
  | ok text =>
    dsimp only
    split
    · exact ⟨_, [], rfl⟩
    · cases parsed : Command.parse text.toList with
      | ok command => exact absurd parsed (rejected text command decoded)
      | error error => exact ⟨_, [error], rfl⟩

end Session

end Console

namespace Program

open Console (Command)
open Console.Command (Names Holds IsStep)

theorem foldl_perform_refusals (program : Program) (answers : List Console.CommandError) :
    (answers.map Console.Effect.refusal).foldl perform program = program := by
  rw [List.foldl_map]
  exact List.foldl_fixed _

section Line

variable {program : Program} {input : Console.Input} {line : List UInt8}
  (running : program.console.isRunning = true) (ends : program.console.line? input = some line)

include running ends

theorem step_of_line :
    let taken := { program.console with typed := [] }.takeLine program.output line
    ∃ ending, program.step (.input input) = taken.2.foldl perform { program with
      console := { taken.1 with ending }
      printed := program.printed ++ Console.printed taken.2 } := by
  intro taken
  obtain ⟨ending, same⟩ := Console.Session.take_of_line program.output ends
  have one : program.console.steps program.output [input] = ({ taken.1 with ending }, taken.2) := by
    rw [← same]
    exact if_pos running
  refine ⟨ending, ?_⟩
  rw [step, input_eq, one]

theorem step_of_adjust {text : String} {adjustment : Adjustment} (decoded : Utf8.decode line = .ok text)
    (parsed : Command.parse text.toList = .ok (.adjust adjustment)) :
    ∃ ending, program.step (.input input) = { program with console := { program.console with
      settings := program.console.settings.adjust adjustment
      typed := []
      ending } } := by
  obtain ⟨ending, stepped⟩ := step_of_line running ends
  rw [Console.Session.takeLine_accepted _ _ decoded parsed] at stepped
  have nothing : Console.printed [] = "" := rfl
  refine ⟨ending, ?_⟩
  simpa only [Console.Session.execute, List.foldl_nil, nothing, String.append_empty] using stepped

theorem step_of_rejected (rejected : ∀ text command, Utf8.decode line = .ok text →
      Command.parse text.toList ≠ .ok command) :
    ∃ ending printed, program.step (.input input) = { program with
      console := { program.console with
        typed := []
        ending }
      printed } := by
  obtain ⟨ending, stepped⟩ := step_of_line running ends
  obtain ⟨_, answers, taken⟩ := Console.Session.takeLine_rejected { program.console with typed := [] }
    program.output rejected
  rw [taken, foldl_perform_refusals] at stepped
  exact ⟨ending, _, stepped⟩

end Line

variable (settings : Settings) (link : Link.Config) (robot : Robot.Simulator) (store : Preferences.Store)
  (before : List Happening) {input : Console.Input} {line : List UInt8}

/--
A line that ends at any time of any run.

If it adjusts a knob, the settings change at that knob only, and nothing else does. They hold what the word
behind the knob's name says, unless it is a step from where the heading was. A tick before any further
command has heading and throttle from them as they are. If the line is no command, then settings, link,
sample and control loop stay as they are.
-/
theorem typed_is_stored_and_sent
    (running : ((new settings link robot store).run before).console.isRunning = true)
    (ends : ((new settings link robot store).run before).console.line? input = some line) :
    let program := (new settings link robot store).run before
    let after := program.step (.input input)
    (∀ text adjustment, Utf8.decode line = .ok text →
      Command.parse text.toList = .ok (.adjust adjustment) →
      after = { program with console := { program.console with
        settings := program.console.settings.adjust adjustment
        typed := []
        ending := after.console.ending } } ∧
      ControlSettings.SameBut adjustment.knob after.console.settings program.console.settings ∧
      (¬IsStep adjustment → ∃ first word rest, Text.pieces text.toList = first :: word :: rest ∧
        Names adjustment.knob.command first ∧ Holds after.console.settings word adjustment.knob)) ∧
    (∀ later, (∀ command, .command command ∉ after.readings later) →
      ∃ output, ((after.run later).step .tick).output = some output ∧
        output.frame.heading = after.console.settings.heading ∧
        output.frame.throttle = after.console.settings.throttle) ∧
    ((∀ text command, Utf8.decode line = .ok text → Command.parse text.toList ≠ .ok command) →
      after = { program with
        console := { program.console with
          typed := []
          ending := after.console.ending }
        printed := after.printed }) := by
  intro program after
  refine ⟨fun text adjustment decoded parsed => ?_, fun later silent => ?_, fun rejected => ?_⟩
  · obtain ⟨ending, stepped⟩ := step_of_adjust running ends decoded parsed
    obtain ⟨first, word, rest, words, named, accepts⟩ := Console.Command.words_of_adjust parsed
    have stepped : after = _ := stepped
    rw [stepped]
    exact ⟨rfl, ControlSettings.adjust_sameBut _ adjustment, fun settles =>
      ⟨first, word, rest, words, named, accepts.holds settles _⟩⟩
  · have inRange : after.console.settings.InRange :=
      run_inRange (run_inRange (new_inRange settings link robot store) before) [.input input]
    obtain ⟨loop, moment, found, ticked⟩ := (after.run later).tick_output
    rw [after.run_settings_of_silent silent] at found
    rw [← found] at inRange ⊢
    exact ⟨_, ticked, UInt8.mod_eq_of_lt inRange.heading,
      Std.LawfulOrderLeftLeaningMin.min_eq_left _ _ inRange.throttle⟩
  · obtain ⟨ending, printed, stepped⟩ := step_of_rejected running ends rejected
    have stepped : after = _ := stepped
    rw [stepped]

def headingTyped : List Happening := "heading +042".toUTF8.toList.map fun byte => .input (.byte byte)

theorem headingTyped_is_sent :
    let program := (new {} {} Station.defaultRobot {}).run headingTyped
    program.console.isRunning = true ∧
      program.console.line? (.byte 10) = some "heading +042".toUTF8.toList ∧
      ∃ output, (((program.step (.input (.byte 10))).run [.settle, .tick]).step .tick).output = some output ∧
        output.frame.heading = 42 ∧ output.frame.throttle = 0 := by
  have running : ((new {} {} Station.defaultRobot {}).run headingTyped).console.isRunning = true := by
    decide +kernel
  have ends : ((new {} {} Station.defaultRobot {}).run headingTyped).console.line? (.byte 10) =
      some "heading +042".toUTF8.toList := by decide +kernel
  obtain ⟨-, sent, -⟩ := typed_is_stored_and_sent {} {} Station.defaultRobot {} headingTyped running ends
  obtain ⟨output, ticked, heading, throttle⟩ := sent [.settle, .tick] fun _ => List.not_mem_nil
  exact ⟨running, ends, output, ticked, heading.trans (by decide +kernel),
    throttle.trans (by decide +kernel)⟩

end Program
end SpinnerRemote
