import SpinnerRemote.Console.Session
import SpinnerRemote.Proofs.Control.Adjustments
import SpinnerRemote.Proofs.Decimal.Numeral
import SpinnerRemote.Proofs.Text.Utf8
import SpinnerRemote.Proofs.Text.Words

/-!
The grammar of the operator's commands. `parse_exactly_grammar` shows that a line is read as the grammar says
and in no other way, with the answer to every line that is no command.

A line is its words. The first of them, in letters of either case, names a command. Each knob has a command
with one word behind its name, a tilt has two, and the others have none.
-/
namespace SpinnerRemote

namespace Knob

def command : Knob → String
  | .trim => "trim"
  | .fine => "fine"
  | .throttle => "throttle"
  | .heading => "heading"
  | .tiltSteer => "tilt-steer"
  | .heartbeat => "heartbeat"
  | .foreground => "foreground"

def asked : Knob → String
  | .trim | .fine => "a slider position"
  | .throttle => "a throttle value"
  | .heading => "an offset, + or -"
  | .tiltSteer | .heartbeat | .foreground => "on or off"

def expected : Knob → String
  | .trim | .fine => "0-1000"
  | .throttle => "0-100"
  | .heading => "0-99, + or -"
  | .tiltSteer | .heartbeat | .foreground => "on or off"

end Knob

namespace Console.Command

open Numeral (Spells IsDecimal)

def Names (name : String) (word : List Char) : Prop := word.map Char.toLower = name.toList

def plainCommands : List (String × Command) :=
  [("scan", .scan), ("disconnect", .disconnect), ("status", .status), ("help", .help), ("?", .help),
    ("quit", .quit), ("exit", .quit)]

def Switches (word : List Char) (on : Bool) : Prop :=
  ∃ name ∈ if on then ["on", "true", "1"] else ["off", "false", "0"], Names name word

/-- A word behind the name of a knob's command, and the adjustment that it makes. -/
inductive Accepts : Knob → List Char → Adjustment → Prop
  | trim {word : List Char} {n : Nat} (spells : Spells word n) (small : n ≤ 1000) :
    Accepts .trim word (.trim n)
  | fine {word : List Char} {n : Nat} (spells : Spells word n) (small : n ≤ 1000) :
    Accepts .fine word (.fine n)
  | throttle {word : List Char} {n : UInt8} (spells : Spells word n.toNat) (small : n ≤ 100) :
    Accepts .throttle word (.throttle n)
  | heading {word : List Char} {n : UInt8} (spells : Spells word n.toNat) (small : n ≤ 99) :
    Accepts .heading word (.heading n)
  | headingUp : Accepts .heading ['+'] .headingUp
  | headingDown : Accepts .heading ['-'] .headingDown
  | tiltSteer {word : List Char} {on : Bool} (switches : Switches word on) :
    Accepts .tiltSteer word (.tiltSteer on)
  | heartbeat {word : List Char} {on : Bool} (switches : Switches word on) :
    Accepts .heartbeat word (.heartbeat on)
  | foreground {word : List Char} {on : Bool} (switches : Switches word on) :
    Accepts .foreground word (.foreground on)

/-- A word for a tilt in G: a decimal number that is finite when it is rounded. -/
def Tilts (word : List Char) (g : Single) : Prop :=
  (∃ negative digits exponent,
    IsDecimal word negative digits exponent ∧ g = .ofDecimal negative digits exponent) ∧ g.isFinite = true

/-- What a line of these words is read as. Words behind those that a constructor looks at may be any. -/
inductive Means : List (List Char) → Except CommandError Command → Prop
  | nothing : Means [] (.error .empty)
  | unknown {first : List Char} {rest : List (List Char)}
    (plain : ∀ entry ∈ plainCommands, ¬Names entry.1 first) (knob : ∀ knob : Knob, ¬Names knob.command first)
    (tilt : ¬Names "tilt" first) :
    Means (first :: rest) (.error (.unknown (String.ofList (first.map Char.toLower))))
  | plain {name : String} {command : Command} {first : List Char} {rest : List (List Char)}
    (listed : (name, command) ∈ plainCommands) (named : Names name first) :
    Means (first :: rest) (.ok command)
  | missing {knob : Knob} {first : List Char} (named : Names knob.command first) :
    Means [first] (.error (.missingArgument knob.command knob.asked))
  | accepted {knob : Knob} {adjustment : Adjustment} {first word : List Char} {rest : List (List Char)}
    (named : Names knob.command first) (accepts : Accepts knob word adjustment) :
    Means (first :: word :: rest) (.ok (.adjust adjustment))
  | refused {knob : Knob} {first word : List Char} {rest : List (List Char)}
    (named : Names knob.command first) (refuses : ∀ adjustment, ¬Accepts knob word adjustment) :
    Means (first :: word :: rest)
      (.error (.invalidArgument knob.command (String.ofList word) knob.expected))
  | tiltMissing {first : List Char} {rest : List (List Char)} (named : Names "tilt" first)
    (few : rest.length < 2) :
    Means (first :: rest) (.error (.missingArgument "tilt" "forward/back and steer tilt"))
  | tilted {first one other : List Char} {rest : List (List Char)} {forwardBack steer : Single}
    (named : Names "tilt" first) (tilts : Tilts one forwardBack) (tilts' : Tilts other steer) :
    Means (first :: one :: other :: rest) (.ok (.tilt forwardBack steer))
  | forwardBackRefused {first one other : List Char} {rest : List (List Char)}
    (named : Names "tilt" first) (refuses : ∀ g, ¬Tilts one g) :
    Means (first :: one :: other :: rest)
      (.error (.invalidArgument "tilt" (String.ofList one) "a number of G"))
  | steerRefused {first one other : List Char} {rest : List (List Char)} {forwardBack : Single}
    (named : Names "tilt" first) (tilts : Tilts one forwardBack) (refuses : ∀ g, ¬Tilts other g) :
    Means (first :: one :: other :: rest)
      (.error (.invalidArgument "tilt" (String.ofList other) "a number of G"))

def AsksForMore : Except CommandError Command → Prop
  | .error .empty => True
  | .error (.missingArgument _ _) => True
  | _ => False

/-! The words that an argument reads. -/

theorem names_iff {name : String} {word : List Char} :
    Names name word ↔ String.ofList (Text.lowerAscii word) = name := by
  unfold Names Text.lowerAscii
  constructor
  · intro same
    rw [same, String.ofList_toList]
  · rintro rfl
    exact String.toList_ofList.symm

theorem slider_read {word : List Char} {n : Nat} :
    slider.read word = some n ↔ Spells word n ∧ n ≤ 1000 := Numeral.natural?_eq_some_iff

theorem byteUpTo_eq_some_iff {bound n : UInt8} {word : List Char} :
    byteUpTo bound word = some n ↔ Spells word n.toNat ∧ n ≤ bound := by
  unfold byteUpTo
  rw [Option.map_eq_some_iff, UInt8.le_iff_toNat_le]
  constructor
  · rintro ⟨value, read, rfl⟩
    obtain ⟨spells, small⟩ := Numeral.natural?_eq_some_iff.mp read
    -- A value up to the bound fits a byte, so nothing is cut off.
    rw [UInt8.toNat_ofNat_of_lt' (small.trans_lt bound.toNat_lt)]
    exact ⟨spells, small⟩
  · intro accepted
    exact ⟨n.toNat, Numeral.natural?_eq_some_iff.mpr accepted, UInt8.ofNat_toNat⟩

theorem throttle_read {word : List Char} {n : UInt8} :
    throttle.read word = some n ↔ Spells word n.toNat ∧ n ≤ 100 := byteUpTo_eq_some_iff

theorem not_spells_sign (n : Nat) : ¬Spells ['+'] n ∧ ¬Spells ['-'] n := by
  constructor <;> intro spells <;> cases Numeral.natural?_eq_some_iff.mpr ⟨spells, le_refl n⟩

theorem heading_read {word : List Char} {adjustment : Adjustment} :
    heading.read word = some adjustment ↔ Accepts .heading word adjustment := by
  unfold heading
  dsimp only
  split
  · constructor
    · rintro ⟨⟩
      exact .headingUp
    · intro accepts
      cases accepts with
      | heading spells => exact absurd spells (not_spells_sign _).1
      | headingUp => rfl
  · constructor
    · rintro ⟨⟩
      exact .headingDown
    · intro accepts
      cases accepts with
      | heading spells => exact absurd spells (not_spells_sign _).2
      | headingDown => rfl
  next up down =>
    rw [Option.map_eq_some_iff]
    constructor
    · rintro ⟨n, read, rfl⟩
      obtain ⟨spells, small⟩ := byteUpTo_eq_some_iff.mp read
      exact .heading spells small
    · intro accepts
      cases accepts with
      | heading spells small => exact ⟨_, byteUpTo_eq_some_iff.mpr ⟨spells, small⟩, rfl⟩
      | headingUp => exact absurd rfl up
      | headingDown => exact absurd rfl down

theorem switch_read {word : List Char} {on : Bool} : switch.read word = some on ↔ Switches word on := by
  simp only [switch, Switches, names_iff]
  generalize String.ofList (Text.lowerAscii word) = name
  have apart : name ∈ ["on", "true", "1"] → name ∉ ["off", "false", "0"] := by
    simp only [List.mem_cons, List.not_mem_nil, or_false]
    rintro (rfl | rfl | rfl) <;> decide
  cases on with
  | true =>
    simp only [if_true, exists_eq_right']
    split_ifs <;> simp_all
  | false =>
    simp only [Bool.false_eq_true, if_false, exists_eq_right']
    split_ifs <;> simp_all

theorem tiltInG_read {word : List Char} {g : Single} : tiltInG.read word = some g ↔ Tilts word g := by
  unfold tiltInG Tilts
  rw [Option.filter_eq_some_iff, Numeral.decimal?_eq_some_iff]

/-! What the name of a command makes of the words behind it. -/

section Words

variable {α : Type} {argument : Argument α} {word : List Char} (rest : List (List Char))

theorem parse_refused (refuses : ∀ value, argument.read word ≠ some value) (command : String) :
    argument.parse command word =
      .error (.invalidArgument command (String.ofList word) argument.expected) := by
  rw [Argument.parse, Option.eq_none_iff_forall_ne_some.mpr refuses]

theorem parse_accepted {value : α} (accepts : argument.read word = some value) (command : String) :
    argument.parse command word = .ok value := by
  rw [Argument.parse, accepts]

theorem unary_accepted {value : α} (accepts : argument.read word = some value) (make : α → Command)
    (command missing : String) :
    (do return make (← unary command missing argument (word :: rest))) =
      (.ok (make value) : Except CommandError Command) := by
  rw [unary, parse_accepted accepts]
  rfl

theorem unary_refused (refuses : ∀ value, argument.read word ≠ some value) (make : α → Command)
    (command missing : String) :
    (do return make (← unary command missing argument (word :: rest))) =
      (.error (.invalidArgument command (String.ofList word) argument.expected) :
        Except CommandError Command) := by
  rw [unary, parse_refused refuses]
  rfl

theorem ofWords_plain {name : String} {command : Command} (listed : (name, command) ∈ plainCommands) :
    ofWords name rest = .ok command := by
  simp only [plainCommands, List.mem_cons, Prod.mk.injEq, List.not_mem_nil, or_false] at listed
  obtain ⟨rfl, rfl⟩ | ⟨rfl, rfl⟩ | ⟨rfl, rfl⟩ | ⟨rfl, rfl⟩ | ⟨rfl, rfl⟩ | ⟨rfl, rfl⟩ | ⟨rfl, rfl⟩ := listed <;>
    rfl

theorem ofWords_unknown {name : String} (plain : ∀ entry ∈ plainCommands, entry.1 ≠ name)
    (knob : ∀ knob : Knob, knob.command ≠ name) (tilt : "tilt" ≠ name) :
    ofWords name rest = .error (.unknown name) := by
  have knobs := And.intro (knob .trim) <| And.intro (knob .fine) <| And.intro (knob .throttle) <|
    And.intro (knob .heading) <| And.intro (knob .tiltSteer) <|
    And.intro (knob .heartbeat) (knob .foreground)
  simp only [plainCommands, List.forall_mem_cons] at plain
  unfold ofWords
  split <;> simp_all [Knob.command]

theorem ofWords_missing (knob : Knob) :
    ofWords knob.command [] = .error (.missingArgument knob.command knob.asked) := by
  cases knob <;> rfl

theorem ofWords_accepted {knob : Knob} {adjustment : Adjustment}
    (accepts : Accepts knob word adjustment) :
    ofWords knob.command (word :: rest) = .ok (.adjust adjustment) := by
  cases accepts with
  | trim spells small => exact unary_accepted rest (slider_read.mpr ⟨spells, small⟩) (.adjust ∘ .trim) _ _
  | fine spells small => exact unary_accepted rest (slider_read.mpr ⟨spells, small⟩) (.adjust ∘ .fine) _ _
  | throttle spells small =>
    exact unary_accepted rest (throttle_read.mpr ⟨spells, small⟩) (.adjust ∘ .throttle) _ _
  | heading spells small =>
    exact unary_accepted rest (heading_read.mpr (.heading spells small)) .adjust _ _
  | headingUp => rfl
  | headingDown => rfl
  | tiltSteer switches =>
    exact unary_accepted rest (switch_read.mpr switches) (.adjust ∘ .tiltSteer) _ _
  | heartbeat switches =>
    exact unary_accepted rest (switch_read.mpr switches) (.adjust ∘ .heartbeat) _ _
  | foreground switches =>
    exact unary_accepted rest (switch_read.mpr switches) (.adjust ∘ .foreground) _ _

theorem ofWords_refused {knob : Knob} (refuses : ∀ adjustment, ¬Accepts knob word adjustment) :
    ofWords knob.command (word :: rest) =
      .error (.invalidArgument knob.command (String.ofList word) knob.expected) := by
  cases knob with
  | trim =>
    refine unary_refused rest (fun n read => ?_) (.adjust ∘ .trim) _ _
    obtain ⟨spells, small⟩ := slider_read.mp read
    exact refuses _ (.trim spells small)
  | fine =>
    refine unary_refused rest (fun n read => ?_) (.adjust ∘ .fine) _ _
    obtain ⟨spells, small⟩ := slider_read.mp read
    exact refuses _ (.fine spells small)
  | throttle =>
    refine unary_refused rest (fun n read => ?_) (.adjust ∘ .throttle) _ _
    obtain ⟨spells, small⟩ := throttle_read.mp read
    exact refuses _ (.throttle spells small)
  | heading =>
    exact unary_refused rest (fun adjustment read => refuses _ (heading_read.mp read)) .adjust _ _
  | tiltSteer =>
    exact unary_refused rest (fun on read => refuses _ (.tiltSteer (switch_read.mp read)))
      (.adjust ∘ .tiltSteer) _ _
  | heartbeat =>
    exact unary_refused rest (fun on read => refuses _ (.heartbeat (switch_read.mp read)))
      (.adjust ∘ .heartbeat) _ _
  | foreground =>
    exact unary_refused rest (fun on read => refuses _ (.foreground (switch_read.mp read)))
      (.adjust ∘ .foreground) _ _

variable {other : List Char}

theorem ofWords_tiltMissing {words : List (List Char)} (few : words.length < 2) :
    ofWords "tilt" words = .error (.missingArgument "tilt" "forward/back and steer tilt") := by
  match words, few with
  | [], _ => rfl
  | [_], _ => rfl

theorem ofWords_tilted {forwardBack steer : Single} (tilts : Tilts word forwardBack)
    (tilts' : Tilts other steer) :
    ofWords "tilt" (word :: other :: rest) = .ok (.tilt forwardBack steer) := by
  change parseTilt (word :: other :: rest) = _
  rw [parseTilt, parse_accepted (tiltInG_read.mpr tilts), parse_accepted (tiltInG_read.mpr tilts')]
  rfl

theorem ofWords_forwardBackRefused (refuses : ∀ g, ¬Tilts word g) :
    ofWords "tilt" (word :: other :: rest) =
      .error (.invalidArgument "tilt" (String.ofList word) "a number of G") := by
  change parseTilt (word :: other :: rest) = _
  rw [parseTilt, parse_refused fun g read => refuses g (tiltInG_read.mp read)]
  rfl

theorem ofWords_steerRefused {forwardBack : Single} (tilts : Tilts word forwardBack)
    (refuses : ∀ g, ¬Tilts other g) :
    ofWords "tilt" (word :: other :: rest) =
      .error (.invalidArgument "tilt" (String.ofList other) "a number of G") := by
  change parseTilt (word :: other :: rest) = _
  rw [parseTilt, parse_accepted (tiltInG_read.mpr tilts),
    parse_refused fun g read => refuses g (tiltInG_read.mp read)]
  rfl

end Words

/-! Lines. -/

theorem parse_of_words {line first : List Char} {rest : List (List Char)}
    (words : Text.words line = first :: rest) {name : String} (named : Names name first) :
    parse line = ofWords name rest := by
  rw [parse, words]
  exact congrArg (ofWords · rest) (names_iff.mp named)

theorem parse_of_means {line : List Char} {result : Except CommandError Command}
    (means : Means (Text.words line) result) : parse line = result := by
  generalize split : Text.words line = words at means
  cases means with
  | nothing => rw [parse, split]
  | unknown plain knob tilt =>
    rw [parse, split]
    refine ofWords_unknown _ (fun entry listed same => plain entry listed ?_)
      (fun knob' same => knob knob' ?_) fun same => tilt ?_
    all_goals exact names_iff.mpr same.symm
  | plain listed named => exact (parse_of_words split named).trans (ofWords_plain _ listed)
  | missing named => exact (parse_of_words split named).trans (ofWords_missing _)
  | accepted named accepts => exact (parse_of_words split named).trans (ofWords_accepted _ accepts)
  | refused named refuses => exact (parse_of_words split named).trans (ofWords_refused _ refuses)
  | tiltMissing named few => exact (parse_of_words split named).trans (ofWords_tiltMissing few)
  | tilted named tilts tilts' =>
    exact (parse_of_words split named).trans (ofWords_tilted _ tilts tilts')
  | forwardBackRefused named refuses =>
    exact (parse_of_words split named).trans (ofWords_forwardBackRefused _ refuses)
  | steerRefused named tilts refuses =>
    exact (parse_of_words split named).trans (ofWords_steerRefused _ tilts refuses)

/-- The grammar has an answer to all words. -/
theorem exists_means (words : List (List Char)) : ∃ result, Means words result := by
  cases words with
  | nil => exact ⟨_, .nothing⟩
  | cons first rest =>
    by_cases plain : ∃ entry ∈ plainCommands, Names entry.1 first
    · obtain ⟨entry, listed, named⟩ := plain
      exact ⟨_, .plain listed named⟩
    by_cases knob : ∃ knob : Knob, Names knob.command first
    · obtain ⟨knob, named⟩ := knob
      cases rest with
      | nil => exact ⟨_, .missing named⟩
      | cons word rest =>
        by_cases accepts : ∃ adjustment, Accepts knob word adjustment
        · obtain ⟨adjustment, accepts⟩ := accepts
          exact ⟨_, .accepted named accepts⟩
        · exact ⟨_, .refused named (not_exists.mp accepts)⟩
    by_cases tilt : Names "tilt" first
    · match rest with
      | [] => exact ⟨_, .tiltMissing tilt (by decide)⟩
      | [_] => exact ⟨_, .tiltMissing tilt (by simp)⟩
      | one :: other :: rest =>
        by_cases forwardBack : ∃ g, Tilts one g
        · obtain ⟨g, tilts⟩ := forwardBack
          by_cases steer : ∃ g, Tilts other g
          · obtain ⟨g', tilts'⟩ := steer
            exact ⟨_, .tilted tilt tilts tilts'⟩
          · exact ⟨_, .steerRefused tilt tilts (not_exists.mp steer)⟩
        · exact ⟨_, .forwardBackRefused tilt (not_exists.mp forwardBack)⟩
    · exact ⟨_, .unknown (fun entry listed named => plain ⟨entry, listed, named⟩) (not_exists.mp knob) tilt⟩

theorem parse_eq_iff {line : List Char} {result : Except CommandError Command} :
    parse line = result ↔ Means (Text.words line) result := by
  constructor
  · rintro rfl
    obtain ⟨result, means⟩ := exists_means (Text.words line)
    rw [parse_of_means means]
    exact means
  · exact parse_of_means

theorem Means.append {words : List (List Char)} {result : Except CommandError Command}
    (means : Means words result) (enough : ¬AsksForMore result) (more : List (List Char)) :
    Means (words ++ more) result := by
  cases means with
  | nothing => exact absurd trivial enough
  | unknown plain knob tilt => exact .unknown plain knob tilt
  | plain listed named => exact .plain listed named
  | missing => exact absurd trivial enough
  | accepted named accepts => exact .accepted named accepts
  | refused named refuses => exact .refused named refuses
  | tiltMissing => exact absurd trivial enough
  | tilted named tilts tilts' => exact .tilted named tilts tilts'
  | forwardBackRefused named refuses => exact .forwardBackRefused named refuses
  | steerRefused named tilts refuses => exact .steerRefused named tilts refuses

theorem parse_eq_empty_iff {line : List Char} :
    parse line = .error .empty ↔ Text.isBlankText line = true := by
  rw [parse_eq_iff, ← Text.words_eq_nil_iff]
  constructor
  · intro means
    generalize Text.words line = words at means ⊢
    cases means
    rfl
  · intro none
    rw [none]
    exact .nothing

/-- The console passes over a line of blanks, and does not answer any line as an empty one. -/
theorem takeLine_blank (session : Session) (output : Option Control.Output) (line : List Char) :
    let after := session.takeLine output (String.ofList line).toUTF8.toList
    (Text.isBlankText line = true → after = (session, [])) ∧ .refusal .empty ∉ after.2 := by
  simp only [Session.takeLine, Utf8.decode_toUTF8, String.toList_ofList]
  split
  next blank => exact ⟨fun _ => rfl, List.not_mem_nil⟩
  next blank =>
    refine ⟨fun blank' => absurd blank' blank, ?_⟩
    cases read : parse line with
    | ok command => cases command <;> simp [Session.execute]
    | error error =>
      have other : error ≠ .empty := fun empty => blank (parse_eq_empty_iff.mp (empty ▸ read))
      simp [other.symm]

open Binary in
/-- The words for a tilt are the decimal numbers that do not round beyond the format, and each is read as the
nearest number of the format. -/
theorem tilts_iff {word : List Char} {value : ℚ} :
    (∃ g, Tilts word g ∧ g.value = value) ↔ ∃ negative digits exponent,
      IsDecimal word negative digits exponent ∧
      |Format.single.rounded (signed negative digits * 10 ^ exponent)| ≤ Format.single.greatest ∧
      value = Format.single.rounded (signed negative digits * 10 ^ exponent) := by
  constructor
  · rintro ⟨_, ⟨⟨negative, digits, exponent, decimal, rfl⟩, finite⟩, rfl⟩
    have rounds := ofDecimal_rounds (f := .single) negative digits exponent
    have within : |Format.single.rounded (signed negative digits * 10 ^ exponent)| ≤
        Format.single.greatest := by
      by_contra beyond
      rw [rounds.beyond (not_le.mp beyond)] at finite
      cases finite
    exact ⟨negative, digits, exponent, decimal, within, (rounds.within within).2⟩
  · rintro ⟨negative, digits, exponent, decimal, within, rfl⟩
    obtain ⟨finite, value⟩ := (ofDecimal_rounds (f := .single) negative digits exponent).within within
    exact ⟨_, ⟨⟨negative, digits, exponent, decimal, rfl⟩, finite⟩, value⟩

/--
A line is read as the grammar says of its words, and in no other way.

The lines without a word are those that the console passes over, which is why nobody is told of an empty
command. Unless a word is missing, words that follow do not change what is read. The numbers of a tilt are
rounded to the nearest, and refused where that is not finite.
-/
theorem parse_exactly_grammar (line : List Char) :
    (∀ result, parse line = result ↔ Means (Text.pieces line) result) ∧
    (parse line = .error .empty ↔ Text.trim line = []) ∧
    (∀ (session : Session) (output : Option Control.Output),
      let after := session.takeLine output (String.ofList line).toUTF8.toList
      (Text.trim line = [] → after = (session, [])) ∧ .refusal .empty ∉ after.2) ∧
    (∀ longer more, Text.pieces longer = Text.pieces line ++ more → ¬AsksForMore (parse line) →
      parse longer = parse line) ∧
    (∀ word value, (∃ g, Tilts word g ∧ g.value = value) ↔ ∃ negative digits exponent,
      IsDecimal word negative digits exponent ∧
      |Format.single.rounded (Binary.signed negative digits * 10 ^ exponent)| ≤ Format.single.greatest ∧
      value = Format.single.rounded (Binary.signed negative digits * 10 ^ exponent)) := by
  simp only [← Text.words_eq_pieces, Text.trim_eq_nil_iff]
  refine ⟨fun _ => parse_eq_iff, parse_eq_empty_iff, fun session output => takeLine_blank session output line,
    fun longer more split enough => ?_, fun _ _ => tilts_iff⟩
  rw [parse_eq_iff, split]
  exact (parse_eq_iff.mp rfl).append enough more

example : parse " HEADING  +000099 x ".toList = .ok (.adjust (.heading 99)) := by decide +kernel

end Console.Command
end SpinnerRemote
