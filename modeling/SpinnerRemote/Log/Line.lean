import SpinnerRemote.Log.File
import SpinnerRemote.Log.Filter
import SpinnerRemote.Text.Hex

/-!
The lines that records are written as. Times are not part of a line here; whoever writes it puts them in
front.
-/
namespace SpinnerRemote.Log

/-- A character of a message as it is logged: what could steer a terminal is written out. -/
def printable (c : Char) : List Char :=
  if c ∈ ['\x07', '\x08', '\x0c', '\x1b', '\x7f'] then '\\' :: 'x' :: Hex.digits 2 c.toNat
  else if 0x80 ≤ c.toNat ∧ c.toNat ≤ 0x9f then
    '\\' :: 'u' :: '\x7b' :: Hex.digits 2 c.toNat ++ ['\x7d']
  else [c]

def Record.text (showTarget : Bool) (record : Record) : String :=
  record.level.name ++ " " ++ (if showTarget then record.source.target ++ ": " else "") ++
    String.ofList (record.message.toList.flatMap printable)

def Level.colour : Level → Nat
  | .off => 0
  | .error => 31
  | .warn => 33
  | .info => 32
  | .debug => 34
  | .trace => 35

def rendered (wanted : Bool) (rendition : Nat) (text : String) : String :=
  if wanted then s!"\x1b[{rendition}m" ++ text ++ "\x1b[0m" else text

def Record.written (colours showTarget : Bool) (stamp : Stamp) (record : Record) : String :=
  let level := record.level.name
  let blanks := String.ofList (List.replicate (5 - level.length) ' ')
  rendered colours 2 stamp.text ++ " " ++ rendered colours record.level.colour (blanks ++ level) ++ " " ++
    (if showTarget then
      rendered colours 2 record.source.target ++ rendered colours 2 ":" ++ " "
    else "") ++
    String.ofList (record.message.toList.flatMap printable)

def lines (filter : Filter) (showTarget : Bool) (records : List Record) : List String :=
  (records.filter fun record => filter.allows record.level record.source.target).flatMap
    fun record => (record.text showTarget).splitOn "\n"

def periodText (milliseconds : Nat) : String :=
  if milliseconds < 1000 then s!"{milliseconds}ms"
  else
    let fraction := (Decimal.padded 3 (milliseconds % 1000)).toList
    let digits := (fraction.reverse.dropWhile (· = '0')).reverse
    let rest := if digits.isEmpty then "" else "." ++ String.ofList digits
    s!"{milliseconds / 1000}{rest}s"

end SpinnerRemote.Log
