import SpinnerRemote.Preferences.Store

/-!
A store together with the place where its file is: saving to it and opening it again. A save that the
place refuses changes neither the file nor the store, which therefore still has it to do.
-/
namespace SpinnerRemote.Preferences

inductive Place where
  | missing
  | file (bytes : List UInt8)
  /-- Something that is no file, which can be neither read nor replaced. -/
  | blocked
  deriving DecidableEq, Repr

def Place.bytes? : Place → Option (List UInt8)
  | .file bytes => some bytes
  | _ => none

structure Kept where
  place : Place
  store : Store

namespace Kept

def ofPlace (place : Place) : Kept := ⟨place, .openBytes place.bytes?⟩

def reopen (kept : Kept) : Kept := .ofPlace kept.place

/-- Writes what is pending. There is no result if the place refuses it. -/
def flush? (kept : Kept) : Option Kept :=
  match kept.store.pending?, kept.place with
  | none, _ => some kept
  | some _, .blocked => none
  | some text, _ => some ⟨.file text.toUTF8.toList, kept.store.saved⟩

end Kept
end SpinnerRemote.Preferences
