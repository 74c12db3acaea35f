/-!
Reading UTF-8. Text that is not well formed is refused at the first place that is wrong, and the fault
says how many bytes are, or that the bytes end within a character.
-/
namespace SpinnerRemote.Utf8

/-- Why bytes are no text. The index is that of the first byte of the character at fault. -/
inductive Fault where
  | invalid (length index : Nat)
  | incomplete (index : Nat)
  deriving DecidableEq, Repr

def Fault.message : Fault → String
  | .invalid length index => s!"invalid utf-8 sequence of {length} bytes from index {index}"
  | .incomplete index => s!"incomplete utf-8 byte sequence from index {index}"

def isContinuation (byte : UInt8) : Bool := 0x80 ≤ byte && byte ≤ 0xBF

def width? (lead : UInt8) : Option Nat :=
  if 0xC2 ≤ lead && lead ≤ 0xDF then some 2
  else if 0xE0 ≤ lead && lead ≤ 0xEF then some 3
  else if 0xF0 ≤ lead && lead ≤ 0xF4 then some 4
  else none

/-- The second byte is held to a narrower range where a longer form, a surrogate or a value beyond the
last code point would begin. -/
def isSecond (lead second : UInt8) : Bool :=
  isContinuation second &&
    (lead != 0xE0 || 0xA0 ≤ second) && (lead != 0xED || second ≤ 0x9F) &&
    (lead != 0xF0 || 0x90 ≤ second) && (lead != 0xF4 || second ≤ 0x8F)

def character (leadBits : Nat) (rest : List UInt8) : Char :=
  Char.ofNat (rest.foldl (fun n byte => n * 64 + byte.toNat % 64) leadBits)

def decodeFrom (index : Nat) : List UInt8 → Except Fault (List Char)
  | [] => .ok []
  | a :: rest =>
    if a < 0x80 then (decodeFrom (index + 1) rest).map (character a.toNat [] :: ·)
    else
      match width? a, rest with
      | none, _ => .error (.invalid 1 index)
      | some _, [] => .error (.incomplete index)
      | some width, b :: rest =>
        if !isSecond a b then .error (.invalid 1 index)
        else if width = 2 then
          (decodeFrom (index + 2) rest).map (character (a.toNat % 32) [b] :: ·)
        else
          match rest with
          | [] => .error (.incomplete index)
          | c :: rest =>
            if !isContinuation c then .error (.invalid 2 index)
            else if width = 3 then
              (decodeFrom (index + 3) rest).map (character (a.toNat % 16) [b, c] :: ·)
            else
              match rest with
              | [] => .error (.incomplete index)
              | d :: rest =>
                if !isContinuation d then .error (.invalid 3 index)
                else (decodeFrom (index + 4) rest).map (character (a.toNat % 8) [b, c, d] :: ·)

def decode (bytes : List UInt8) : Except Fault String := (decodeFrom 0 bytes).map String.ofList

end SpinnerRemote.Utf8
