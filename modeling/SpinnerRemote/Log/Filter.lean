import SpinnerRemote.Decimal.Numeral
import SpinnerRemote.Log.Pattern
import SpinnerRemote.Log.Record

/-!
Which records are logged. A filter is a list of directives between commas: a level, a target, or both with
an equals sign between them, and possibly a span with a field in brackets. No record of this program is in
a span, and the only field of a record is its message, which has no value that could be asked for.

Of the directives that concern a record the one with the longest target decides, of those one with a field
before one without, and of equals the last.
-/
namespace SpinnerRemote.Log

def Level.ofText? (text : List Char) : Option Level :=
  match Numeral.natural? 5 text with
  | some rank => Level.all[rank]?
  | none => Level.all.find? fun level => Text.lowerAscii level.name.toList = Text.lowerAscii text

structure Field where
  name : List Char
  hasValue : Bool
  deriving DecidableEq, Repr

namespace Field

def isNumber (text : List Char) : Bool :=
  (Numeral.decimal? (f := .double) text).isSome ||
    String.ofList (Text.lowerAscii (Numeral.splitSign text).2) ∈ ["inf", "infinity", "nan"]

def ofText? (text : List Char) : Option Field :=
  let name := text.takeWhile (· ≠ '=')
  match text.drop name.length with
  | [] => some { name, hasValue := false }
  | _ :: rest =>
    let value := rest.takeWhile (· ≠ '=')
    if isNumber value || Pattern.isValid value then some { name, hasValue := true } else none

/-- Whether the records of this program have the field: they have a message, as text alone. -/
def isOfRecords (field : Field) : Bool := !field.hasValue && field.name = "message".toList

end Field

/-- A directive. Of a span it is kept only whether the directive asks for one. -/
structure Directive where
  target : Option String := none
  level : Level := .trace
  inSpan : Bool := false
  field : Option Field := none
  deriving DecidableEq, Repr

namespace Directive

def level? (text : List Char) : Option Level := if text.isEmpty then some .trace else Level.ofText? text

def levelOrTarget (text : List Char) : Directive :=
  match Level.ofText? text with
  | some level => { level }
  | none => { target := some (String.ofList text) }

/--
The rest of a directive behind its brackets: nothing, or a level. The level is taken from a text behind
the same number of characters.
-/
def behindSpan? (directive : Directive) (text : List Char) (start : Nat) :
    List Char → Option Directive
  | [] => some directive
  | '=' :: _ => (level? (text.drop (start + 1))).map fun level => { directive with level }
  | _ => none

def span? (target : Option String) (text : List Char) (start : Nat) (rest : List Char) :
    Option Directive :=
  let span := rest.takeWhile fun c => c ≠ ']' ∧ c ≠ '\x7b'
  let start := start + span.length
  match rest.drop span.length with
  | ']' :: rest => behindSpan? { target, inSpan := true } text (start + 1) rest
  | '\x7b' :: rest =>
    let length := (rest.takeWhile (· ≠ '\x7d')).length
    match rest.drop length with
    | '\x7d' :: ']' :: rest => do
      if length = 0 then none
      let field ← Field.ofText? ((text.drop (start + 1)).take length)
      behindSpan? { target, inSpan := !span.isEmpty, field := some field } text (start + length + 3) rest
    | _ => none
  | _ => none

def isStart (c : Char) : Bool := c = '-' || c = ':' || c = '_' || Text.isLetterOrNumber c

/--
Reads one directive. Where its parts end is found without the blanks around it. The parts are cut from
the whole text all the same, so that blanks in front of it move them.
-/
def ofText? (text : List Char) : Option Directive :=
  match Text.trim text with
  | [] => none
  | '[' :: rest => span? none text 1 rest
  | first :: rest =>
    if isStart first then
      let length := (rest.takeWhile fun c => c ≠ '=' ∧ c ≠ '[').length + 1
      let target := some (String.ofList (text.take length))
      match (first :: rest).drop length with
      | '=' :: _ => (level? (text.drop (length + 1))).map fun level => { target, level }
      | _ :: rest => span? target text (length + 1) rest
      | [] => some (levelOrTarget text)
    else none

def concerns (directive : Directive) (target : String) : Bool :=
  !directive.inSpan && directive.field.all Field.isOfRecords &&
    directive.target.all fun own => own.toList.isPrefixOf target.toList

def weight (directive : Directive) : Nat :=
  let length := match directive.target with
    | none => 0
    | some target => target.length + 1
  2 * length + (if directive.field.isSome then 1 else 0)

end Directive

abbrev Filter := List Directive

namespace Filter

/-- The directives between commas. A filter without one lets nothing pass. -/
def ofText? (text : String) : Option Filter :=
  ((text.splitOn ",").filter (· ≠ "")).mapM fun part => Directive.ofText? part.toList

def decisive (filter : Filter) (target : String) : Option Directive :=
  (filter.filter (·.concerns target)).foldl
    (fun best directive =>
      match best with
      | none => some directive
      | some held => if held.weight ≤ directive.weight then some directive else best)
    none

def allows (filter : Filter) (level : Level) (target : String) : Bool :=
  match filter.decisive target with
  | some directive => level.rank ≤ directive.level.rank
  | none => false

/-- The filter of the environment if there is a readable one, else of the settings, else everything down
to information. -/
def choose (environment : Option String) (settings : String) : Filter :=
  ((environment.bind ofText?).or (ofText? settings)).getD [{ level := .info }]

end Filter
end SpinnerRemote.Log
