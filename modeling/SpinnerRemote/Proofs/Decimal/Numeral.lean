import Mathlib.Data.List.TakeWhile
import SpinnerRemote.Decimal.Numeral
import SpinnerRemote.Proofs.Binary.Rounds

/-!
Which texts are numerals, and of which numbers.

A natural number is read exactly from its digits, with any number of zeros and a plus in front of them or
not: `natural?_eq_some_iff`. A decimal number is read exactly from a text of the grammar `IsDecimal`, and as
the number of the format that is nearest to it: `decimal?_eq_some_iff`, and `Binary.ofDecimal_rounds`.
-/
namespace SpinnerRemote.Numeral

/-! Natural numbers. -/

/-- The digits of a number, with any number of zeros and a plus in front of them or not. -/
def Spells (text : List Char) (n : Nat) : Prop :=
  ∃ zeros, text = List.replicate zeros '0' ++ Nat.toDigits 10 n ∨
    text = '+' :: (List.replicate zeros '0' ++ Nat.toDigits 10 n)

theorem value_eq_ofDigitChars (digits : List Char) : value digits = Nat.ofDigitChars 10 digits 0 := rfl

theorem value_snoc (digits : List Char) (digit : Char) :
    value (digits ++ [digit]) = 10 * value digits + (digit.toNat - '0'.toNat) := by
  simp [value]

theorem exists_digit {digit : Char} (isDigit : digit.isDigit = true) :
    ∃ n < 10, digit = n.digitChar ∧ digit.toNat - '0'.toNat = n := by
  have range := Char.isDigit_iff_toNat.mp isDigit
  have zero : '0'.toNat = 48 := rfl
  have nine : '9'.toNat = 57 := rfl
  refine ⟨digit.toNat - 48, by omega, ?_, rfl⟩
  apply Char.toNat_inj.mp
  rw [Nat.toNat_digitChar_of_lt_ten (by omega)]
  omega

theorem isNatural_iff {digits : List Char} :
    isNatural digits = true ↔ digits ≠ [] ∧ ∀ digit ∈ digits, digit.isDigit = true := by
  simp [isNatural]

theorem exists_zeros {digits : List Char} (natural : isNatural digits = true) :
    ∃ zeros, digits = List.replicate zeros '0' ++ Nat.toDigits 10 (value digits) := by
  induction digits using List.reverseRecOn with
  | nil => cases natural
  | append_singleton before last ih =>
    obtain ⟨-, all⟩ := isNatural_iff.mp natural
    obtain ⟨n, small, rfl, value_last⟩ := exists_digit (all last (by simp))
    have single : Nat.toDigits 10 n = [n.digitChar] := Nat.toDigits_of_lt_base small
    rw [value_snoc, value_last]
    obtain rfl | more := eq_or_ne before []
    · exact ⟨0, by simp [value, single]⟩
    · obtain ⟨zeros, shown⟩ := ih (isNatural_iff.mpr ⟨more, fun digit member => all digit (by simp [member])⟩)
      obtain zero | positive := (value before).eq_zero_or_pos
      · -- Nothing but zeros stands before the last digit, so the one that shows their value is one more.
        rw [zero, Nat.toDigits_zero] at shown
        refine ⟨zeros + 1, ?_⟩
        rw [zero, shown, List.replicate_succ', Nat.mul_zero, Nat.zero_add, single]
      · refine ⟨zeros, ?_⟩
        rw [← Nat.toDigits_append_toDigits (by decide) positive small, single, ← List.append_assoc, ← shown]

theorem isNatural_printed (zeros n : Nat) :
    isNatural (List.replicate zeros '0' ++ Nat.toDigits 10 n) = true := by
  refine isNatural_iff.mpr ⟨by simp, fun digit member => ?_⟩
  obtain zero | printed := List.mem_append.mp member
  · rw [List.eq_of_mem_replicate zero]
    rfl
  · exact Nat.isDigit_of_mem_toDigits (by decide) (by decide) printed

theorem value_printed (zeros n : Nat) :
    value (List.replicate zeros '0' ++ Nat.toDigits 10 n) = n := by
  rw [value_eq_ofDigitChars, Nat.ofDigitChars_append, Nat.ofDigitChars_replicate_zero,
    Nat.mul_zero, Nat.ofDigitChars_ten_toDigits]

theorem isNatural_and_value_iff {digits : List Char} {n : Nat} :
    isNatural digits = true ∧ value digits = n ↔
      ∃ zeros, digits = List.replicate zeros '0' ++ Nat.toDigits 10 n := by
  constructor
  · rintro ⟨natural, rfl⟩
    exact exists_zeros natural
  · rintro ⟨zeros, rfl⟩
    exact ⟨isNatural_printed zeros n, value_printed zeros n⟩

theorem plus_not_natural (rest : List Char) : isNatural ('+' :: rest) = false := rfl

theorem natural?_eq_some_iff {bound n : Nat} {text : List Char} :
    natural? bound text = some n ↔ Spells text n ∧ n ≤ bound := by
  have read {digits : List Char} :
      (if isNatural digits ∧ value digits ≤ bound then some (value digits) else none) = some n ↔
        (∃ zeros, digits = List.replicate zeros '0' ++ Nat.toDigits 10 n) ∧ n ≤ bound := by
    rw [← isNatural_and_value_iff]
    constructor
    · intro taken
      obtain ⟨⟨natural, small⟩, same⟩ := Option.ite_none_right_eq_some.mp taken
      cases same
      exact ⟨⟨natural, rfl⟩, small⟩
    · rintro ⟨⟨natural, rfl⟩, small⟩
      exact if_pos ⟨natural, small⟩
  unfold natural? Spells
  split
  next rest =>
    rw [read]
    refine and_congr_left fun _ => exists_congr fun zeros => ?_
    have unsigned : '+' :: rest ≠ List.replicate zeros '0' ++ Nat.toDigits 10 n := fun same => by
      have natural := isNatural_printed zeros n
      rw [← same, plus_not_natural] at natural
      cases natural
    simp [unsigned]
  next unsigned =>
    rw [read]
    refine and_congr_left fun _ => exists_congr fun zeros => ?_
    exact (or_iff_left (unsigned _)).symm

/-! Decimal numbers. -/

inductive Sign : List Char → Bool → Prop
  | absent : Sign [] false
  | plus : Sign ['+'] false
  | minus : Sign ['-'] true

inductive Fraction : List Char → List Char → Prop
  | absent : Fraction [] []
  | present {digits : List Char} (all : ∀ digit ∈ digits, digit.isDigit = true) :
    Fraction ('.' :: digits) digits

inductive Exponent : List Char → Int → Prop
  | absent : Exponent [] 0
  | present {mark : Char} {sign digits : List Char} {negative : Bool} (known : mark = 'e' ∨ mark = 'E')
    (signed : Sign sign negative) (natural : digits ≠ [] ∧ ∀ digit ∈ digits, digit.isDigit = true) :
    Exponent (mark :: (sign ++ digits)) (Binary.signed negative (Nat.ofDigitChars 10 digits 0))

/-- A decimal number: whether it is negative, its digits taken as a whole number, and the power of ten that
the last of them counts. -/
inductive IsDecimal : List Char → Bool → Nat → Int → Prop
  | mk {sign whole point fraction tail : List Char} {negative : Bool} {exponent : Int}
    (signed : Sign sign negative) (all : ∀ digit ∈ whole, digit.isDigit = true)
    (behind : Fraction point fraction) (some : whole ++ fraction ≠ []) (last : Exponent tail exponent) :
    IsDecimal (sign ++ (whole ++ (point ++ tail))) negative
      (Nat.ofDigitChars 10 (whole ++ fraction) 0) (exponent - fraction.length)

def Unsigned (text : List Char) : Prop := text.head? ≠ some '+' ∧ text.head? ≠ some '-'

def Undigited (text : List Char) : Prop := ∀ c ∈ text.head?, c.isDigit = false

theorem unsigned_of_digit {c : Char} (digit : c.isDigit = true) (rest : List Char) :
    Unsigned (c :: rest) := by
  constructor <;> rintro ⟨⟩ <;> cases digit

theorem splitSign_sound {text rest : List Char} {negative : Bool}
    (split : splitSign text = (negative, rest)) : ∃ sign, Sign sign negative ∧ text = sign ++ rest := by
  unfold splitSign at split
  split at split <;> cases split
  · exact ⟨['-'], .minus, rfl⟩
  · exact ⟨['+'], .plus, rfl⟩
  · exact ⟨[], .absent, rfl⟩

theorem splitSign_append {sign : List Char} {negative : Bool} (signed : Sign sign negative)
    {rest : List Char} (unsigned : Unsigned rest) : splitSign (sign ++ rest) = (negative, rest) := by
  cases signed with
  | plus => rfl
  | minus => rfl
  | absent =>
    rw [List.nil_append]
    unfold splitSign
    split
    · exact absurd rfl unsigned.2
    · exact absurd rfl unsigned.1
    · rfl

theorem splitDigits_sound {text digits rest : List Char} (split : splitDigits text = (digits, rest)) :
    (∀ digit ∈ digits, digit.isDigit = true) ∧ text = digits ++ rest := by
  cases split
  exact ⟨fun _ member => List.mem_takeWhile_imp member, List.takeWhile_append_dropWhile.symm⟩

theorem splitDigits_append {digits rest : List Char} (all : ∀ digit ∈ digits, digit.isDigit = true)
    (undigited : Undigited rest) : splitDigits (digits ++ rest) = (digits, rest) := by
  have none : rest.takeWhile Char.isDigit = [] ∧ rest.dropWhile Char.isDigit = rest := by
    cases rest with
    | nil => exact ⟨rfl, rfl⟩
    | cons c rest =>
      have letter : c.isDigit = false := undigited c rfl
      simp [letter]
  rw [splitDigits, List.takeWhile_append_of_pos all, List.dropWhile_append_of_pos all, none.1, none.2,
    List.append_nil]

theorem splitFraction_sound {text fraction rest : List Char}
    (split : splitFraction text = (fraction, rest)) :
    ∃ point, Fraction point fraction ∧ text = point ++ rest := by
  unfold splitFraction at split
  split at split
  next text =>
    obtain ⟨all, parts⟩ := splitDigits_sound split
    exact ⟨'.' :: fraction, .present all, congrArg ('.' :: ·) parts⟩
  next =>
    cases split
    exact ⟨[], .absent, rfl⟩

theorem splitFraction_append {point fraction rest : List Char} (behind : Fraction point fraction)
    (undigited : Undigited rest) (pointless : rest.head? ≠ some '.') :
    splitFraction (point ++ rest) = (fraction, rest) := by
  cases behind with
  | present all => exact splitDigits_append all undigited
  | absent =>
    rw [List.nil_append]
    unfold splitFraction
    split
    · exact absurd rfl pointless
    · rfl

theorem exponent?_eq_some_iff {text : List Char} {exponent : Int} :
    exponent? text = some exponent ↔ Exponent text exponent := by
  constructor
  · intro read
    cases text with
    | nil =>
      cases read
      exact .absent
    | cons mark rest =>
      cases split : splitSign rest with
      | mk negative digits =>
        simp only [exponent?, split] at read
        obtain ⟨⟨known, natural⟩, same⟩ := Option.ite_none_right_eq_some.mp read
        obtain ⟨sign, signed, rfl⟩ := splitSign_sound split
        cases same
        exact .present known signed (isNatural_iff.mp natural)
  · intro last
    cases last with
    | absent => rfl
    | @present mark sign digits negative known signed natural =>
      have unsigned : Unsigned digits := by
        obtain ⟨c, rest, rfl⟩ := List.exists_cons_of_ne_nil natural.1
        exact unsigned_of_digit (natural.2 c List.mem_cons_self) rest
      simp only [exponent?, splitSign_append signed unsigned]
      exact if_pos ⟨known, isNatural_iff.mpr natural⟩

theorem Exponent.head? {text : List Char} {exponent : Int} (last : Exponent text exponent) :
    Undigited text ∧ text.head? ≠ some '.' := by
  cases last with
  | absent => exact ⟨nofun, nofun⟩
  | present known signed natural =>
    constructor
    · rintro c ⟨⟩
      obtain rfl | rfl := known <;> rfl
    · rintro ⟨⟩
      obtain known | known := known <;> cases known

theorem undigited_fraction {point fraction tail : List Char} {exponent : Int}
    (behind : Fraction point fraction) (last : Exponent tail exponent) : Undigited (point ++ tail) := by
  cases behind with
  | absent => exact last.head?.1
  | present all =>
    rintro c ⟨⟩
    rfl

theorem unsigned_digits {whole point fraction tail : List Char}
    (all : ∀ digit ∈ whole, digit.isDigit = true) (behind : Fraction point fraction)
    (some : whole ++ fraction ≠ []) : Unsigned (whole ++ (point ++ tail)) := by
  cases whole with
  | cons c rest => exact unsigned_of_digit (all c List.mem_cons_self) _
  | nil =>
    cases behind with
    | absent => exact absurd rfl some
    | present => constructor <;> rintro ⟨⟩

variable {f : Format}

theorem decimal?_eq_some_iff {text : List Char} {number : Binary f} :
    decimal? text = some number ↔ ∃ negative digits exponent,
      IsDecimal text negative digits exponent ∧ number = .ofDecimal negative digits exponent := by
  constructor
  · intro read
    cases first : splitSign text with
    | mk negative unsigned =>
      cases second : splitDigits unsigned with
      | mk whole more =>
        cases third : splitFraction more with
        | mk fraction tail =>
          simp only [decimal?, first, second, third] at read
          obtain ⟨digits, read⟩ := Option.ite_none_left_eq_some.mp read
          obtain ⟨exponent, last, same⟩ := Option.map_eq_some_iff.mp read
          obtain ⟨sign, signed, rfl⟩ := splitSign_sound first
          obtain ⟨all, rfl⟩ := splitDigits_sound second
          obtain ⟨point, behind, rfl⟩ := splitFraction_sound third
          rw [List.isEmpty_iff] at digits
          exact ⟨_, _, _, .mk signed all behind digits (exponent?_eq_some_iff.mp last), same.symm⟩
  · rintro ⟨negative, digits, exponent, ⟨signed, all, behind, some, last⟩, rfl⟩
    obtain ⟨undigited, pointless⟩ := last.head?
    simp only [decimal?, splitSign_append signed (unsigned_digits all behind some),
      splitDigits_append all (undigited_fraction behind last),
      splitFraction_append behind undigited pointless, exponent?_eq_some_iff.mpr last,
      List.isEmpty_iff, some, if_false, Option.map_some]
    rfl

end SpinnerRemote.Numeral
