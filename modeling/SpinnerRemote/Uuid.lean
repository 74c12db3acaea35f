import SpinnerRemote.Text.Hex

/-!
Universally unique identifiers, which name the services and characteristics of a peripheral.
-/
namespace SpinnerRemote

structure Uuid where
  value : BitVec 128
  deriving DecidableEq, Repr

namespace Uuid

def groups : List Nat := [8, 4, 4, 4, 12]

def hyphenated : List Nat → List Char → List Char
  | [], _ => []
  | [length], digits => digits.take length
  | length :: rest, digits => digits.take length ++ '-' :: hyphenated rest (digits.drop length)

def unhyphenated? : List Nat → List Char → Option (List Char)
  | [], text => if text.isEmpty then some [] else none
  | [length], text => if text.length = length then some text else none
  | length :: rest, text =>
    match text.drop length with
    | '-' :: others => (unhyphenated? rest others).map (text.take length ++ ·)
    | _ => none

def text (uuid : Uuid) : String := String.ofList (hyphenated groups (Hex.digits 32 uuid.value.toNat))

/-- Reads 32 digits, alone or in hyphenated groups, and the groups also in braces or behind `urn:uuid:`
in letters of either case. -/
def ofText? (text : String) : Option Uuid :=
  let characters := text.toList
  let digits? :=
    if characters.length = 32 then some characters
    else if characters.head? = some '\x7b' ∧ characters.getLast? = some '\x7d' then
      unhyphenated? groups (characters.drop 1).dropLast
    else if (characters.take 9).map Char.toLower = "urn:uuid:".toList then
      unhyphenated? groups (characters.drop 9)
    else unhyphenated? groups characters
  (digits?.bind Hex.value?).map fun value => ⟨BitVec.ofNat 128 value⟩

end Uuid
end SpinnerRemote
