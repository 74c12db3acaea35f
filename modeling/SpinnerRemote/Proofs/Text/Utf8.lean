import Mathlib.Data.List.Basic
import SpinnerRemote.Text.Utf8

/-!
Bytes that were written as a text. `decode_toUTF8` shows that they are read as that text again.
-/
namespace SpinnerRemote.Utf8

open String (utf8EncodeChar)

theorem toList_loop (bytes : ByteArray) (i : Nat) (read : List UInt8) :
    ByteArray.toList.loop bytes i read = read.reverse ++ bytes.data.toList.drop i := by
  induction i, read using ByteArray.toList.loop.induct bytes with
  | case1 i read inside ih =>
    have next : bytes.data.toList.drop i = bytes.get! i :: bytes.data.toList.drop (i + 1) := by
      rw [List.drop_eq_getElem_cons (by simpa using inside)]
      congr 1
      exact (getElem!_pos bytes.data i inside).symm
    rw [ByteArray.toList.loop, if_pos inside, ih, next]
    simp
  | case2 i read outside =>
    have none : bytes.data.toList.length ≤ i := by simpa using outside
    rw [ByteArray.toList.loop, if_neg outside, List.drop_eq_nil_of_le none, List.append_nil]

theorem toUTF8_toList (text : String) : text.toUTF8.toList = text.toList.flatMap utf8EncodeChar := by
  rw [ByteArray.toList, toList_loop, String.toUTF8_eq_toByteArray, ← String.utf8Encode_toList,
    List.utf8Encode]
  simp

/-! The bytes of a character. -/

theorem isContinuation_iff {byte : UInt8} :
    isContinuation byte = true ↔ 0x80 ≤ byte.toNat ∧ byte.toNat ≤ 0xBF := by
  simp [isContinuation, UInt8.le_iff_toNat_le]

theorem width?_eq_some {lead : UInt8} {width : Nat} : width? lead = some width ↔
    width = 2 ∧ 0xC2 ≤ lead.toNat ∧ lead.toNat ≤ 0xDF ∨
    width = 3 ∧ 0xE0 ≤ lead.toNat ∧ lead.toNat ≤ 0xEF ∨
    width = 4 ∧ 0xF0 ≤ lead.toNat ∧ lead.toNat ≤ 0xF4 := by
  unfold width?
  simp only [UInt8.le_iff_toNat_le, Bool.and_eq_true, decide_eq_true_eq, UInt8.reduceToNat]
  grind

theorem isSecond_iff {lead second : UInt8} : isSecond lead second = true ↔
    0x80 ≤ second.toNat ∧ second.toNat ≤ 0xBF ∧
      (lead.toNat = 0xE0 → 0xA0 ≤ second.toNat) ∧ (lead.toNat = 0xED → second.toNat ≤ 0x9F) ∧
      (lead.toNat = 0xF0 → 0x90 ≤ second.toNat) ∧ (lead.toNat = 0xF4 → second.toNat ≤ 0x8F) := by
  simp only [isSecond, Bool.and_eq_true, isContinuation_iff, Bool.or_eq_true, bne_iff_ne, ne_eq,
    decide_eq_true_eq, UInt8.le_iff_toNat_le, ← UInt8.toNat_inj, UInt8.reduceToNat]
  grind

theorem not_ascii_of_width {lead : UInt8} {width : Nat} (wide : width? lead = some width) :
    ¬lead < 0x80 := by
  rw [width?_eq_some] at wide
  simp only [UInt8.lt_iff_toNat_lt, UInt8.reduceToNat]
  omega

/-! A character is read from bytes that hold its code in groups of six bits. -/

section Characters

variable {index : Nat} {a b c d : UInt8} {rest : List UInt8} {read : Char}

theorem character_eq {leadBits : Nat} {bytes : List UInt8}
    (code : bytes.foldl (fun n byte => n * 64 + byte.toNat % 64) leadBits = read.toNat) :
    character leadBits bytes = read := by
  rw [character, code, Char.ofNat_toNat]

theorem decodeFrom_one (small : read.toNat ≤ 0x7F) (lead : a.toNat = read.toNat) :
    decodeFrom index (a :: rest) = (decodeFrom (index + 1) rest).map (read :: ·) := by
  have ascii : a < 0x80 := by
    simp only [UInt8.lt_iff_toNat_lt, lead, UInt8.reduceToNat]
    omega
  have same : character a.toNat [] = read := character_eq lead
  rw [decodeFrom.eq_def, ← same]
  exact if_pos ascii

theorem decodeFrom_two (large : 0x7F < read.toNat) (small : read.toNat ≤ 0x7FF)
    (lead : a.toNat = read.toNat / 64 + 0xC0) (last : b.toNat = read.toNat % 64 + 0x80) :
    decodeFrom index (a :: b :: rest) = (decodeFrom (index + 2) rest).map (read :: ·) := by
  have wide : width? a = some 2 := by
    rw [width?_eq_some]
    omega
  have second : isSecond a b = true := by
    rw [isSecond_iff]
    omega
  have same : character (a.toNat % 32) [b] = read := by
    apply character_eq
    simp only [List.foldl]
    omega
  rw [decodeFrom.eq_def, ← same]
  simp [not_ascii_of_width wide, wide, second]

theorem decodeFrom_three (valid : read.toNat < 0xD800 ∨ 0xDFFF < read.toNat) (large : 0x7FF < read.toNat)
    (small : read.toNat ≤ 0xFFFF) (lead : a.toNat = read.toNat / 4096 + 0xE0)
    (middle : b.toNat = read.toNat / 64 % 64 + 0x80) (last : c.toNat = read.toNat % 64 + 0x80) :
    decodeFrom index (a :: b :: c :: rest) = (decodeFrom (index + 3) rest).map (read :: ·) := by
  have wide : width? a = some 3 := by
    rw [width?_eq_some]
    omega
  have second : isSecond a b = true := by
    rw [isSecond_iff]
    omega
  have third : isContinuation c = true := by
    rw [isContinuation_iff]
    omega
  have same : character (a.toNat % 16) [b, c] = read := by
    apply character_eq
    simp only [List.foldl]
    omega
  rw [decodeFrom.eq_def, ← same]
  simp [not_ascii_of_width wide, wide, second, third]

theorem decodeFrom_four (valid : read.toNat < 0x110000) (large : 0xFFFF < read.toNat)
    (lead : a.toNat = read.toNat / 262144 + 0xF0) (high : b.toNat = read.toNat / 4096 % 64 + 0x80)
    (middle : c.toNat = read.toNat / 64 % 64 + 0x80) (last : d.toNat = read.toNat % 64 + 0x80) :
    decodeFrom index (a :: b :: c :: d :: rest) = (decodeFrom (index + 4) rest).map (read :: ·) := by
  have wide : width? a = some 4 := by
    rw [width?_eq_some]
    omega
  have second : isSecond a b = true := by
    rw [isSecond_iff]
    omega
  have third : isContinuation c = true := by
    rw [isContinuation_iff]
    omega
  have fourth : isContinuation d = true := by
    rw [isContinuation_iff]
    omega
  have same : character (a.toNat % 8) [b, c, d] = read := by
    apply character_eq
    simp only [List.foldl]
    omega
  rw [decodeFrom.eq_def, ← same]
  simp [not_ascii_of_width wide, wide, second, third, fourth]

end Characters

theorem toNat_ofNat_of_eq {n m : Nat} (same : n = m) (byte : m < 256) : (UInt8.ofNat n).toNat = m := by
  rw [same, UInt8.toNat_ofNat', Nat.mod_eq_of_lt byte]

theorem decodeFrom_encodeChar (index : Nat) (read : Char) (rest : List UInt8) :
    decodeFrom index (utf8EncodeChar read ++ rest) =
      (decodeFrom (index + (utf8EncodeChar read).length) rest).map (read :: ·) := by
  have valid : read.toNat < 0xD800 ∨ 0xDFFF < read.toNat ∧ read.toNat < 0x110000 := read.valid
  have code : read.val.toNat = read.toNat := rfl
  have tail (n : Nat) : (UInt8.ofNat (n % 64 + 0x80)).toNat = n % 64 + 0x80 :=
    toNat_ofNat_of_eq rfl (by omega)
  unfold utf8EncodeChar
  simp only [code]
  split
  next small => exact decodeFrom_one small (toNat_ofNat_of_eq rfl (by omega))
  next large =>
    split
    next small =>
      exact decodeFrom_two (by omega) small (toNat_ofNat_of_eq (by omega) (by omega)) (tail _)
    next larger =>
      split
      next small =>
        exact decodeFrom_three (by omega) (by omega) small (toNat_ofNat_of_eq (by omega) (by omega))
          (tail _) (tail _)
      next largest =>
        exact decodeFrom_four (by omega) (by omega) (toNat_ofNat_of_eq (by omega) (by omega))
          (tail _) (tail _) (tail _)

theorem decodeFrom_encode (index : Nat) (text : List Char) :
    decodeFrom index (text.flatMap utf8EncodeChar) = .ok text := by
  induction text generalizing index with
  | nil => rfl
  | cons c rest ih =>
    rw [List.flatMap_cons, decodeFrom_encodeChar, ih]
    rfl

/-- Whatever was written as a text is read as that text. -/
theorem decode_toUTF8 (text : String) : decode text.toUTF8.toList = .ok text := by
  rw [decode, toUTF8_toList, decodeFrom_encode]
  exact congrArg Except.ok String.ofList_toList

end SpinnerRemote.Utf8
