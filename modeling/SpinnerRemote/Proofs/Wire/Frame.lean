import Mathlib.Data.Nat.Bitwise
import SpinnerRemote.Wire

/-!
Frames on the wire. What a frame encodes to is read back as that frame, and nothing else is:
`decode_exactly_encodings` says of any bytes what they are read as, and why they are refused.
-/
namespace SpinnerRemote

/-! A word and its low and high byte. -/

theorem toNat_join (low high : UInt8) :
    (low.toUInt16 ||| high.toUInt16 <<< 8).toNat = 256 * high.toNat + low.toNat := by
  have lowBound : low.toNat < 2 ^ 8 := low.toNat_lt
  have highBound : high.toNat < 2 ^ 8 := high.toNat_lt
  have eight : (8 : UInt16).toNat % 16 = 8 := rfl
  have shifted : high.toNat <<< 8 % 2 ^ 16 = high.toNat <<< 8 := by
    rw [Nat.shiftLeft_eq]
    omega
  -- The bytes do not overlap, so their union is their sum.
  rw [UInt16.toNat_or, UInt16.toNat_shiftLeft, UInt8.toNat_toUInt16, UInt8.toNat_toUInt16, eight, shifted,
    Nat.lor_comm, ← Nat.shiftLeft_add_eq_or_of_lt lowBound, Nat.shiftLeft_eq]
  omega

theorem toNat_high (word : UInt16) : (word >>> 8).toUInt8.toNat = word.toNat / 256 := by
  have bound : word.toNat < 2 ^ 16 := word.toNat_lt
  have eight : (8 : UInt16).toNat % 16 = 8 := rfl
  rw [UInt16.toNat_toUInt8, UInt16.toNat_shiftRight, eight, Nat.shiftRight_eq_div_pow]
  omega

theorem join_bytes (word : UInt16) :
    word.toUInt8.toUInt16 ||| (word >>> 8).toUInt8.toUInt16 <<< 8 = word := by
  apply UInt16.toNat_inj.mp
  rw [toNat_join, toNat_high, UInt16.toNat_toUInt8]
  exact Nat.div_add_mod _ _

theorem low_join (low high : UInt8) : (low.toUInt16 ||| high.toUInt16 <<< 8).toUInt8 = low := by
  have bound : low.toNat < 2 ^ 8 := low.toNat_lt
  apply UInt8.toNat_inj.mp
  rw [UInt16.toNat_toUInt8, toNat_join]
  omega

theorem high_join (low high : UInt8) :
    ((low.toUInt16 ||| high.toUInt16 <<< 8) >>> 8).toUInt8 = high := by
  have bound : low.toNat < 2 ^ 8 := low.toNat_lt
  apply UInt8.toNat_inj.mp
  rw [toNat_high, toNat_join]
  omega

namespace Direction

theorem ofByte?_eq_some_iff {byte : UInt8} {direction : Direction} :
    ofByte? byte = some direction ↔ direction.byte = byte := by
  constructor
  · intro read
    unfold ofByte? at read
    split at read <;> cases read <;> rfl
  · rintro rfl
    exact ofByte?_byte direction

theorem ofByte?_eq_none_iff {byte : UInt8} : ofByte? byte = none ↔ byte ∉ [0, 1, 2] := by
  unfold ofByte?
  split <;> simp_all

theorem byte_mem (direction : Direction) : direction.byte ∈ [0, 1, 2] := by
  cases direction <;> decide

end Direction

namespace Frame

theorem decode_encode (frame : Frame) : decode frame.encode = .ok frame := by
  unfold decode encode
  simp only [Direction.ofByte?_byte, join_bytes]

theorem encode_of_decode {bytes : List UInt8} {frame : Frame} (read : decode bytes = .ok frame) :
    frame.encode = bytes := by
  unfold decode at read
  split at read
  next low high heading throttle byte heartbeat =>
    cases known : Direction.ofByte? byte with
    | none => simp [known] at read
    | some direction =>
      simp only [known, Except.ok.injEq] at read
      subst read
      simp only [encode, low_join, high_join, Direction.ofByte?_eq_some_iff.mp known]
  next => cases read

theorem decode_eq_ok_iff {bytes : List UInt8} {frame : Frame} :
    decode bytes = .ok frame ↔ frame.encode = bytes := by
  constructor
  · exact encode_of_decode
  · rintro rfl
    exact decode_encode frame

theorem decode_of_length_ne {bytes : List UInt8} (wrong : bytes.length ≠ 6) :
    decode bytes = .error (.frameLength bytes.length) := by
  unfold decode
  split
  next => exact absurd rfl wrong
  next => rfl

theorem decode_of_length {bytes : List UInt8} (six : bytes.length = 6) :
    ∃ fifth, bytes[4]? = some fifth ∧
      (fifth ∈ [0, 1, 2] ∧ (∃ frame, decode bytes = .ok frame) ∨
        fifth ∉ [0, 1, 2] ∧ decode bytes = .error (.invalidDirection fifth)) := by
  match bytes, six with
  | [low, high, heading, throttle, fifth, heartbeat], _ =>
    refine ⟨fifth, rfl, ?_⟩
    simp only [decode]
    cases known : Direction.ofByte? fifth with
    | some direction =>
      have listed : fifth ∈ [0, 1, 2] := by
        by_contra unlisted
        rw [Direction.ofByte?_eq_none_iff.mpr unlisted] at known
        cases known
      exact .inl ⟨listed, _, rfl⟩
    | none => exact .inr ⟨Direction.ofByte?_eq_none_iff.mp known, rfl⟩

/--
Bytes are read as a frame exactly if they are six, the fifth of them is the byte of a direction, and the
frame encodes to them. Bytes of any other number are refused for their number, and six bytes exactly for a
fifth that is no direction; the first of these errors names both numbers. Every frame is read back from what
it encodes to.
-/
theorem decode_exactly_encodings :
    (∀ bytes frame, decode bytes = .ok frame ↔
      bytes.length = 6 ∧ (∃ fifth : UInt8, bytes[4]? = some fifth ∧ fifth ∈ [0, 1, 2]) ∧
        frame.encode = bytes) ∧
    (∀ bytes error, decode bytes = .error error ↔
      bytes.length ≠ 6 ∧ error = .frameLength bytes.length ∨
      bytes.length = 6 ∧ ∃ fifth : UInt8, bytes[4]? = some fifth ∧ fifth ∉ [0, 1, 2] ∧
        error = .invalidDirection fifth) ∧
    (∀ length, (WireError.frameLength length).message =
      s!"invalid frame length: expected 6, got {length}") ∧
    ∀ frame, decode frame.encode = .ok frame := by
  refine ⟨?_, ?_, fun _ => rfl, decode_encode⟩
  · intro bytes frame
    rw [decode_eq_ok_iff]
    constructor
    · rintro rfl
      exact ⟨rfl, ⟨frame.direction.byte, rfl, frame.direction.byte_mem⟩, rfl⟩
    · rintro ⟨-, -, encoded⟩
      exact encoded
  · intro bytes error
    constructor
    · intro refused
      by_cases six : bytes.length = 6
      · obtain ⟨fifth, byte, ⟨-, frame, read⟩ | ⟨unlisted, reason⟩⟩ := decode_of_length six
        · rw [read] at refused
          cases refused
        · rw [reason] at refused
          cases refused
          exact .inr ⟨six, fifth, byte, unlisted, rfl⟩
      · rw [decode_of_length_ne six] at refused
        cases refused
        exact .inl ⟨six, rfl⟩
    · rintro (⟨wrong, rfl⟩ | ⟨six, fifth, byte, unlisted, rfl⟩)
      · exact decode_of_length_ne wrong
      · obtain ⟨same, present, fate⟩ := decode_of_length six
        cases byte.symm.trans present
        rcases fate with ⟨listed, -⟩ | ⟨-, reason⟩
        · exact absurd listed unlisted
        · exact reason

end Frame
end SpinnerRemote
