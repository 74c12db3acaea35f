import SpinnerRemote.Preferences.Basic
import SpinnerRemote.Json.Reader
import SpinnerRemote.Text.Utf8

/-!
Preferences that are kept in a file. The store knows whether it differs from what it last saved, and
there is something to write only then. A file that cannot be read as an object counts as empty.
-/
namespace SpinnerRemote.Preferences

def ofText? (text : String) : Option Preferences :=
  match Json.Tree.ofText? text with
  | some (.object members) =>
    match Json.Tree.value? Json.depthLimit (.object members) with
    | some (.object members) => some ⟨members⟩
    | _ => none
  | _ => none

def text (preferences : Preferences) : String := (Json.Value.object preferences.members).text

/-- Preferences, and whether they were changed since they were opened or saved. -/
structure Store where
  preferences : Preferences := {}
  dirty : Bool := false

namespace Store

def openBytes (bytes : Option (List UInt8)) : Store :=
  match bytes with
  | none => {}
  | some bytes =>
    match Utf8.decode bytes with
    | .ok text => { preferences := (ofText? text).getD {} }
    | .error _ => {}

def set (store : Store) (key : String) (number : Json.Number) : Store where
  preferences := store.preferences.set key number
  dirty := store.dirty || !store.preferences.holds key number

def setInt (store : Store) (key : String) (value : Int) : Store := store.set key (intNumber value)

def setFloat (store : Store) (key : String) (value : Single) : Store :=
  match floatNumber? value with
  | some number => store.set key number
  | none => store

def pending? (store : Store) : Option String :=
  if store.dirty then some store.preferences.text else none

def saved (store : Store) : Store := { store with dirty := false }

end Store
end SpinnerRemote.Preferences
