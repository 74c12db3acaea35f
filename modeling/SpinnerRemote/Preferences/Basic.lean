import SpinnerRemote.Json.Value

/-!
Preferences: numbers by key that outlive a session. They are the members of a JSON object, so that a
member which is no number is kept as it is and answers no question.
-/
namespace SpinnerRemote

structure Preferences where
  members : Json.Members := []

namespace Preferences

def headingKey : String := "heading_offset"
def radiusKey : String := "radius"

def number? (preferences : Preferences) (key : String) : Option Json.Number :=
  match preferences.members.get? key with
  | some (.number value) => some value
  | _ => none

/-- The integer of a key, within 64 bits with a sign. -/
def getInt? (preferences : Preferences) (key : String) : Option Int :=
  match preferences.number? key with
  | some (.int value) =>
    let limit : Int := Json.NumberText.signedLimit
    if -limit ≤ value ∧ value < limit then some value else none
  | _ => none

/-- The number of a key, taken to double and then to single precision. -/
def getFloat? (preferences : Preferences) (key : String) : Option Single :=
  match preferences.number? key with
  | some (.int value) => some ((Binary.ofInt value : Double).convert .single)
  | some (.single value) => some value
  | some (.double value) => some (value.convert .single)
  | none => none

def holds (preferences : Preferences) (key : String) (number : Json.Number) : Bool :=
  match preferences.number? key with
  | some held => held.sameAs number
  | none => false

/-- Sets a key, unless it has the number already. -/
def set (preferences : Preferences) (key : String) (number : Json.Number) : Preferences :=
  if preferences.holds key number then preferences
  else ⟨preferences.members.insert key (.number number)⟩

def intNumber (value : Int) : Json.Number := .int value

def floatNumber? (value : Single) : Option Json.Number :=
  if value.isFinite then some (.double (value.convert .double)) else none

def setInt (preferences : Preferences) (key : String) (value : Int) : Preferences :=
  preferences.set key (intNumber value)

/-- Sets a key to a float; one that is not finite is passed over. -/
def setFloat (preferences : Preferences) (key : String) (value : Single) : Preferences :=
  match floatNumber? value with
  | some number => preferences.set key number
  | none => preferences

end Preferences
end SpinnerRemote
