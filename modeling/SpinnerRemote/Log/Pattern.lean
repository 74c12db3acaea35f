import SpinnerRemote.Text.Blank
import SpinnerRemote.Text.Hex
import SpinnerRemote.Text.Letter

/-!
Regular expressions, as far as whether a text is one. They match Unicode text without tables of its
properties. So the classes of digits, spaces and words, word boundaries, and letters of either case are
refused, unless Unicode is turned off; then whatever could match a byte that is not ASCII is refused.

The text holds no closing brace, so that there are no counted repetitions. It is read from left to right;
of what was read the depth of its nesting is kept, which has a bound.
-/
namespace SpinnerRemote.Log.Pattern

def depthLimit : Nat := 250

structure Flags where
  caseless : Bool := false
  unicode : Bool := true
  spaced : Bool := false
  deriving DecidableEq, Repr

namespace Flags

def turn? (flags : Flags) (letters : List Char) : Option Flags :=
  if letters.Nodup ∧ letters.getLast? ≠ some '-' ∧
      letters.all fun c => c ∈ ['-', 'i', 'm', 's', 'U', 'u', 'R', 'x'] then
    let on := letters.takeWhile (· ≠ '-')
    let turned (letter : Char) (now : Bool) :=
      if letter ∈ on then true else if letter ∈ letters then false else now
    some {
      caseless := turned 'i' flags.caseless
      unicode := turned 'u' flags.unicode
      spaced := turned 'x' flags.spaced }
  else none

def behindBlanks : Bool → List Char → List Char
  | _, [] => []
  | true, c :: rest => behindBlanks (c ≠ '\n') rest
  | false, c :: rest =>
    if c = '#' then behindBlanks true rest
    else if Text.isBlank c then behindBlanks false rest
    else c :: rest

def skip (flags : Flags) (text : List Char) : List Char :=
  if flags.spaced then behindBlanks false text else text

end Flags

/-! ### Escapes -/

inductive Escape where
  | char (c : Char) (isByte : Bool)
  | kind (negated : Bool)
  | place (ofWord : Bool)
  deriving DecidableEq, Repr

namespace Escape

def digits? (flags : Flags) : Nat → List Char → Option (List Char × List Char)
  | 0, text => some ([], text)
  | count + 1, text =>
    match flags.skip text with
    | [] => none
    | c :: rest => (digits? flags count rest).map fun (digits, rest) => (c :: digits, rest)

def code? (flags : Flags) (count : Nat) (text : List Char) : Option (Escape × List Char) := do
  let (digits, rest) ← digits? flags count text
  let value ← Hex.value? digits
  if value.isValidChar then some (.char (.ofNat value) (count = 2), rest) else none

def isPlain (c : Char) : Bool := c.toNat < 0x80 ∧ ¬ c.isAlphanum ∧ c ≠ '<' ∧ c ≠ '>'

def ofText? (flags : Flags) : List Char → Option (Escape × List Char)
  | [] => none
  | 'x' :: rest => code? flags 2 rest
  | 'u' :: rest => code? flags 4 rest
  | 'U' :: rest => code? flags 8 rest
  | c :: rest =>
    if c ∈ ['d', 's', 'w'] then some (.kind false, rest)
    else if c ∈ ['D', 'S', 'W'] then some (.kind true, rest)
    else if c ∈ ['A', 'z'] then some (.place false, rest)
    else if c ∈ ['b', 'B', '<', '>'] then some (.place true, rest)
    else if isPlain c then some (.char c false, rest)
    else
      ([('a', '\x07'), ('f', '\x0c'), ('n', '\n'), ('r', '\r'), ('t', '\t'), ('v', '\x0b')].lookup c).map
        fun c => (.char c false, rest)

def isSupported (flags : Flags) : Escape → Bool
  | .char c isByte =>
    if flags.unicode then !flags.caseless else !(isByte && 0x80 ≤ c.toNat)
  | .kind negated => !flags.unicode && !negated
  | .place ofWord => !(flags.unicode && ofWord)

def isSupportedInSet (flags : Flags) : Escape → Bool
  | .char c _ => flags.unicode || c.toNat < 0x80
  | .kind negated => !flags.unicode && !negated
  | .place _ => false

end Escape

/-- The depth of parts that stand together: one more than the deepest, unless it stands alone. -/
def together : List Nat → Nat
  | [] => 0
  | [depth] => depth
  | depths => depths.foldl max 0 + 1

/-! ### Sets of characters -/

/-- A set in brackets that is being read. -/
structure CharSet where
  left : Option Nat := none
  items : List Nat := []
  isFresh : Bool := true
  deriving Repr

namespace CharSet

def push (set : CharSet) (depth : Nat) : CharSet :=
  { set with items := depth :: set.items, isFresh := false }

def depth (set : CharSet) : Nat :=
  match set.left with
  | none => together set.items
  | some left => max left (together set.items) + 1

def combined (set : CharSet) : CharSet := { left := some set.depth, isFresh := false }

def start? (flags : Flags) (text : List Char) : Option (List Char) :=
  match flags.skip text with
  | '^' :: rest => if flags.unicode then some rest else none
  | text => some text

def element? (flags : Flags) : List Char → Option (Escape × List Char)
  | [] => none
  | '\\' :: rest => Escape.ofText? flags rest
  | c :: rest => some (.char c false, rest)

/-- Reads an element, or the two ends of a range. A hyphen that ends the set stands for itself. -/
def range? (flags : Flags) (text : List Char) : Option (List Char) := do
  let (low, rest) ← element? flags text
  if ¬ low.isSupportedInSet flags then none
  match flags.skip rest with
  | '-' :: after =>
    match flags.skip after with
    | ']' :: _ | '-' :: _ => some ('-' :: after)
    | after =>
      let (high, rest) ← element? flags after
      match low, high with
      | .char low _, .char high _ =>
        if high.toNat < low.toNat ∨ ¬ Escape.isSupportedInSet flags (.char high false) then none
        else some rest
      | _, _ => none
  | rest => some rest

/--
Reads sets to the end of the outermost, given the innermost and those around it; yields their depth. At
the beginning of a set hyphens stand for themselves, and so does a closing bracket.
-/
def read? (flags : Flags) : Nat → CharSet → List CharSet → List Char → Option (Nat × List Char)
  | 0, _, _, _ => none
  | steps + 1, set, outer, text =>
    match flags.skip text with
    | [] => none
    | '[' :: rest => do
      read? flags steps {} ({ set with isFresh := false } :: outer) (← start? flags rest)
    | ']' :: rest =>
      if set.isFresh ∧ set.items.isEmpty then read? flags steps (set.push 0) outer rest
      else
        match outer with
        | [] => some (set.depth + 1, rest)
        | next :: outer => read? flags steps (next.push (set.depth + 1)) outer rest
    | '-' :: rest =>
      if set.isFresh then read? flags steps { set with items := 0 :: set.items } outer rest
      else
        match rest with
        | '-' :: rest => read? flags steps set.combined outer rest
        | _ => do read? flags steps (set.push 0) outer (← range? flags ('-' :: rest))
    | '&' :: '&' :: rest => read? flags steps set.combined outer rest
    | '~' :: '~' :: rest => read? flags steps set.combined outer rest
    | text => do read? flags steps (set.push 0) outer (← range? flags text)

end CharSet

/-! ### Expressions -/

structure Group where
  flags : Flags := {}
  branches : List Nat := []
  /-- The depths of the items behind it, the last one first; flags are an item without one. -/
  items : List (Option Nat) := []
  deriving Repr

namespace Group

def push (group : Group) (depth : Nat) : Group := { group with items := some depth :: group.items }

def repeated? (group : Group) : Option Group :=
  match group.items with
  | some depth :: items => some { group with items := some (depth + 1) :: items }
  | _ => none

def closed (group : Group) : List Nat :=
  together (group.items.map (·.getD 0)) :: group.branches

def depth (group : Group) : Nat := together group.closed

end Group

structure Reader where
  group : Group := {}
  outer : List Group := []
  names : List (List Char) := []
  deriving Repr

namespace Reader

def push (reader : Reader) (depth : Nat) : Reader := { reader with group := reader.group.push depth }

def enter (reader : Reader) (flags : Flags) : Reader :=
  { reader with group := { flags }, outer := reader.group :: reader.outer }

def leave? (reader : Reader) : Option Reader :=
  match reader.outer with
  | [] => none
  | next :: outer => some { reader with group := next.push (reader.group.depth + 1), outer }

def isName : List Char → Bool
  | [] => false
  | first :: rest =>
    (first = '_' || Text.isLetter first) &&
      rest.all fun c => c ∈ ['_', '.', '[', ']'] || Text.isLetterOrNumber c

/-- Enters a group behind the beginning of its name. No two groups have one name. -/
def named? (reader : Reader) (text : List Char) : Option (Reader × List Char) :=
  let name := text.takeWhile (· ≠ '>')
  match text.drop name.length with
  | _ :: rest =>
    if isName name ∧ name ∉ reader.names then
      some ({ reader with names := name :: reader.names }.enter reader.group.flags, rest)
    else none
  | [] => none

/-- Reads flags: those of a group behind a colon, or of the rest of the group that is open. -/
def flags? (reader : Reader) (text : List Char) : Option (Reader × List Char) :=
  let letters := text.takeWhile fun c => c ≠ ':' ∧ c ≠ ')'
  match reader.group.flags.turn? letters, text.drop letters.length with
  | some flags, ':' :: rest => some (reader.enter flags, rest)
  | some flags, _ :: rest =>
    if letters.isEmpty then none
    else some ({ reader with group := { reader.group with flags, items := none :: reader.group.items } },
      rest)
  | _, _ => none

def opening? (reader : Reader) (text : List Char) : Option (Reader × List Char) :=
  match reader.group.flags.skip text with
  | '?' :: 'P' :: '<' :: rest => reader.named? rest
  | '?' :: '<' :: rest => reader.named? rest
  | '?' :: rest => reader.flags? rest
  | text => some (reader.enter reader.group.flags, text)

def step? (reader : Reader) : List Char → Option (Reader × List Char)
  | [] => none
  | '(' :: rest => reader.opening? rest
  | ')' :: rest => reader.leave?.map fun reader => (reader, rest)
  | '|' :: rest =>
    some ({ reader with
      group := { reader.group with branches := reader.group.closed, items := [] } }, rest)
  | '[' :: rest => do
    let flags := reader.group.flags
    if flags.unicode ∧ flags.caseless then none
    let (depth, rest) ← CharSet.read? flags (rest.length + 1) {} [] (← CharSet.start? flags rest)
    return (reader.push depth, rest)
  | '{' :: _ => none
  | '\\' :: rest => do
    let (escape, rest) ← Escape.ofText? reader.group.flags rest
    if escape.isSupported reader.group.flags then some (reader.push 0, rest) else none
  | '.' :: rest => if reader.group.flags.unicode then some (reader.push 0, rest) else none
  | c :: rest =>
    if c ∈ ['*', '+', '?'] then
      reader.group.repeated?.map fun group =>
        ({ reader with group }, match rest with
          | '?' :: rest => rest
          | _ => rest)
    else if c ∈ ['^', '$'] ∨ Escape.isSupported reader.group.flags (.char c false) then
      some (reader.push 0, rest)
    else none

def read? : Nat → Reader → List Char → Option Reader
  | 0, _, _ => none
  | steps + 1, reader, text =>
    match reader.group.flags.skip text with
    | [] => some reader
    | text => do
      let (reader, rest) ← reader.step? text
      read? steps reader rest

end Reader

def isValid (text : List Char) : Bool :=
  match Reader.read? (text.length + 1) {} text with
  | some reader => reader.outer.isEmpty && reader.group.depth ≤ depthLimit
  | none => false

end SpinnerRemote.Log.Pattern
