import SpinnerRemote.Json.Tree
import SpinnerRemote.Decimal.Layout
import SpinnerRemote.Text.Hex

/-!
JSON values and how they are written: indented by two blanks, a member a line, without a final line
break. Objects read from a tree have their keys in code point order, the last of equal keys counts, and
nesting is limited.
-/
namespace SpinnerRemote.Json

inductive Value where
  | null
  | bool (value : Bool)
  | number (value : Number)
  | string (value : String)
  | array (items : List Value)
  | object (members : List (String × Value))

abbrev Members := List (String × Value)

namespace Members

def get? (members : Members) (key : String) : Option Value := members.lookup key

def insert (key : String) (value : Value) : Members → Members
  | [] => [(key, value)]
  | (other, old) :: rest =>
    if key = other then (key, value) :: rest
    else if key < other then (key, value) :: (other, old) :: rest
    else (other, old) :: insert key value rest

/-- Members in key order, the last of equal keys kept. -/
def ofList (members : List (String × Value)) : Members :=
  members.foldl (fun found (key, value) => found.insert key value) []

end Members

def depthLimit : Nat := 127

mutual

/-- The value of a tree, within a depth: every number in range, every string whole. -/
def Tree.value? (depth : Nat) : Tree → Option Value
  | .null => some .null
  | .bool value => some (.bool value)
  | .number text => text.value?.map .number
  | .string text => text.value?.map .string
  | .array items => if depth = 0 then none else (values? (depth - 1) items).map .array
  | .object members =>
    if depth = 0 then none
    else (memberValues? (depth - 1) members).map fun members => .object (Members.ofList members)

def values? (depth : Nat) : List Tree → Option (List Value)
  | [] => some []
  | item :: rest => do
    let value ← item.value? depth
    let values ← values? depth rest
    return value :: values

def memberValues? (depth : Nat) : List (StringText × Tree) → Option (List (String × Value))
  | [] => some []
  | (key, item) :: rest => do
    let key ← key.value?
    let value ← item.value? depth
    let members ← memberValues? depth rest
    return (key, value) :: members

end

def doubleRange : Decimal.Positional := ⟨-5, 15⟩

def singleRange : Decimal.Positional := ⟨-6, 12⟩

/-- A number that is not finite has no JSON form and is written as `null`. -/
def Number.text : Number → String
  | .int value => toString value
  | .single value => (Decimal.text singleRange value).getD "null"
  | .double value => (Decimal.text doubleRange value).getD "null"

def escape (c : Char) : List Char :=
  match c with
  | '"' => ['\\', '"']
  | '\\' => ['\\', '\\']
  | '\x08' => ['\\', 'b']
  | '\x0c' => ['\\', 'f']
  | '\n' => ['\\', 'n']
  | '\r' => ['\\', 'r']
  | '\t' => ['\\', 't']
  | c =>
    if c.toNat < 0x20 then '\\' :: 'u' :: Hex.digits 4 c.toNat
    else [c]

def quoted (text : String) : String := String.ofList ('"' :: text.toList.flatMap escape ++ ['"'])

def newline (depth : Nat) : String := "\n" ++ String.ofList (List.replicate (2 * depth) ' ')

mutual

def Value.render (depth : Nat) : Value → String
  | .null => "null"
  | .bool value => if value then "true" else "false"
  | .number value => value.text
  | .string value => quoted value
  | .array [] => "[]"
  | .array (item :: rest) =>
    "[" ++ newline (depth + 1) ++ item.render (depth + 1) ++ renderItems (depth + 1) rest ++
      newline depth ++ "]"
  | .object [] => "\x7b\x7d"
  | .object ((key, item) :: rest) =>
    "\x7b" ++ newline (depth + 1) ++ quoted key ++ ": " ++ item.render (depth + 1) ++
      renderMembers (depth + 1) rest ++ newline depth ++ "\x7d"

def renderItems (depth : Nat) : List Value → String
  | [] => ""
  | item :: rest => "," ++ newline depth ++ item.render depth ++ renderItems depth rest

def renderMembers (depth : Nat) : List (String × Value) → String
  | [] => ""
  | (key, item) :: rest =>
    "," ++ newline depth ++ quoted key ++ ": " ++ item.render depth ++ renderMembers depth rest

end

def Value.text (value : Value) : String := value.render 0

end SpinnerRemote.Json
