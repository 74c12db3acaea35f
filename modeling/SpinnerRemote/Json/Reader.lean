import SpinnerRemote.Json.Tree
import SpinnerRemote.Text.Hex

/-!
Reading JSON text into a tree. The grammar is the standard's: no comments, no trailing commas, no leading
zeros, no control characters in strings, and nothing but blanks after the value.

Each reader takes the characters at its place and gives what it read with the characters that follow.
Values are nested, so their readers take a bound on the steps; `Tree.ofText?` gives the length of the
text, which is enough: a step that takes no character enters a value that a bracket has to close.
-/
namespace SpinnerRemote.Json

def isSpace (c : Char) : Bool := c = ' ' || c = '\t' || c = '\n' || c = '\r'

def skipSpace (text : List Char) : List Char := text.dropWhile isSpace

def escaped? : Char → Option Char
  | '"' => some '"'
  | '\\' => some '\\'
  | '/' => some '/'
  | 'b' => some '\x08'
  | 'f' => some '\x0c'
  | 'n' => some '\n'
  | 'r' => some '\r'
  | 't' => some '\t'
  | _ => none

def readString : List Char → Option (StringText × List Char)
  | [] => none
  | '"' :: rest => some ([], rest)
  | '\\' :: 'u' :: a :: b :: c :: d :: rest => do
    let unit ← Hex.value? [a, b, c, d]
    let (text, rest) ← readString rest
    return (.code unit :: text, rest)
  | '\\' :: c :: rest => do
    let c ← escaped? c
    let (text, rest) ← readString rest
    return (.plain c :: text, rest)
  | c :: rest => do
    if c.toNat < 0x20 then none
    let (text, rest) ← readString rest
    return (.plain c :: text, rest)

def readDigits (text : List Char) : Option (List Char × List Char) :=
  let (digits, rest) := Numeral.splitDigits text
  if digits.isEmpty then none else some (digits, rest)

def readWhole (text : List Char) : Option (List Char × List Char) := do
  let (digits, rest) ← readDigits text
  if digits.head? = some '0' ∧ digits.length ≠ 1 then none else some (digits, rest)

def readFraction : List Char → Option (Option (List Char) × List Char)
  | '.' :: rest => (readDigits rest).map fun (digits, rest) => (some digits, rest)
  | text => some (none, text)

def readExponent : List Char → Option (Option (Bool × List Char) × List Char)
  | [] => some (none, [])
  | mark :: rest =>
    if mark = 'e' ∨ mark = 'E' then
      let (negative, rest) := Numeral.splitSign rest
      (readDigits rest).map fun (digits, rest) => (some (negative, digits), rest)
    else some (none, mark :: rest)

def readNumber (text : List Char) : Option (NumberText × List Char) := do
  let (negative, text) := match text with
    | '-' :: rest => (true, rest)
    | _ => (false, text)
  let (whole, text) ← readWhole text
  let (fraction, text) ← readFraction text
  let (exponent, text) ← readExponent text
  return ({ negative, whole, fraction, exponent }, text)

mutual

def readValue : Nat → List Char → Option (Tree × List Char)
  | 0, _ => none
  | steps + 1, text =>
    match skipSpace text with
    | 'n' :: 'u' :: 'l' :: 'l' :: rest => some (.null, rest)
    | 't' :: 'r' :: 'u' :: 'e' :: rest => some (.bool true, rest)
    | 'f' :: 'a' :: 'l' :: 's' :: 'e' :: rest => some (.bool false, rest)
    | '"' :: rest => (readString rest).map fun (text, rest) => (.string text, rest)
    | '[' :: rest =>
      match skipSpace rest with
      | ']' :: rest => some (.array [], rest)
      | rest => (readItems steps rest).map fun (items, rest) => (.array items, rest)
    | '{' :: rest =>
      match skipSpace rest with
      | '}' :: rest => some (.object [], rest)
      | rest => (readMembers steps rest).map fun (members, rest) => (.object members, rest)
    | text => (readNumber text).map fun (number, rest) => (.number number, rest)

def readItems : Nat → List Char → Option (List Tree × List Char)
  | 0, _ => none
  | steps + 1, text => do
    let (item, rest) ← readValue steps text
    match skipSpace rest with
    | ',' :: rest =>
      let (items, rest) ← readItems steps rest
      return (item :: items, rest)
    | ']' :: rest => return ([item], rest)
    | _ => none

def readMembers : Nat → List Char → Option (List (StringText × Tree) × List Char)
  | 0, _ => none
  | steps + 1, text =>
    match skipSpace text with
    | '"' :: rest => do
      let (key, rest) ← readString rest
      match skipSpace rest with
      | ':' :: rest =>
        let (item, rest) ← readValue steps rest
        match skipSpace rest with
        | ',' :: rest =>
          let (members, rest) ← readMembers steps rest
          return ((key, item) :: members, rest)
        | '}' :: rest => return ([(key, item)], rest)
        | _ => none
      | _ => none
    | _ => none

end

def Tree.ofText? (text : String) : Option Tree :=
  let characters := text.toList
  match readValue (characters.length + 1) characters with
  | some (tree, rest) => if (skipSpace rest).isEmpty then some tree else none
  | none => none

end SpinnerRemote.Json
