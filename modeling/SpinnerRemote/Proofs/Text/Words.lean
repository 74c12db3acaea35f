import Mathlib.Data.List.TakeWhile
import SpinnerRemote.Text.Blank

/-!
The words of a text are the pieces between its blanks: `words_eq_pieces`. A text without a word is one of
blanks only, and the same as one of which nothing is left without the blanks around it.
-/
namespace SpinnerRemote.Text

/-- The pieces of a text between its blanks, where there is anything between them. -/
def pieces (text : List Char) : List (List Char) := (text.splitOnP isBlank).filter (!·.isEmpty)

theorem words_nil : words [] = [] := rfl

theorem words_cons (c : Char) (rest : List Char) :
    words (c :: rest) =
      if isBlank c then words rest
      else
        match rest with
        | [] => [[c]]
        | d :: _ =>
          match isBlank d, words rest with
          | false, word :: others => (c :: word) :: others
          | _, others => [c] :: others := by
  rfl

theorem words_of_isBlank {c : Char} (blank : isBlank c = true) (rest : List Char) :
    words (c :: rest) = words rest := by
  rw [words_cons, if_pos blank]

theorem words_singleton {c : Char} (letter : isBlank c = false) : words [c] = [[c]] := by
  simp [words_cons, letter]

theorem words_end {c d : Char} (letter : isBlank c = false) (blank : isBlank d = true) (rest : List Char) :
    words (c :: d :: rest) = [c] :: words (d :: rest) := by
  rw [words_cons]
  simp [letter, blank]

theorem words_more {c d : Char} (letter : isBlank c = false) (letter' : isBlank d = false)
    {rest word : List Char} {others : List (List Char)} (later : words (d :: rest) = word :: others) :
    words (c :: d :: rest) = (c :: word) :: others := by
  rw [words_cons]
  simp [letter, letter', later]

theorem words_eq_pieces (text : List Char) : words text = pieces text := by
  unfold pieces
  induction text with
  | nil => simp [words_nil, List.splitOnP_nil]
  | cons c rest ih =>
    rw [List.splitOnP_cons_eq_if_modifyHead]
    cases blank : isBlank c with
    | true => simpa [words_of_isBlank blank] using ih
    | false =>
      cases rest with
      | nil => simp [words_singleton blank, List.splitOnP_nil]
      | cons d rest =>
        rw [List.splitOnP_cons_eq_if_modifyHead] at ih ⊢
        -- The piece that `c` joins begins with `d`, or is empty and the word ends here.
        obtain ⟨piece, others, split⟩ := List.exists_cons_of_ne_nil (List.splitOnP_ne_nil isBlank rest)
        cases blank' : isBlank d with
        | true => simpa [words_end blank blank', blank'] using ih
        | false =>
          simp only [blank', split, Bool.false_eq_true, if_false, List.modifyHead_cons] at ih ⊢
          rw [words_more blank blank' (ih.trans (List.filter_cons_of_pos rfl))]
          exact (List.filter_cons_of_pos rfl).symm

theorem words_eq_nil_iff (text : List Char) : words text = [] ↔ isBlankText text = true := by
  induction text with
  | nil => simp [words_nil, isBlankText]
  | cons c rest ih =>
    cases blank : isBlank c with
    | true => simpa [words_of_isBlank blank, isBlankText, blank] using ih
    | false =>
      have some : words (c :: rest) ≠ [] := by
        cases rest with
        | nil => simp [words_singleton blank]
        | cons d rest =>
          rw [words_cons]
          simp only [blank, Bool.false_eq_true, if_false]
          split <;> exact List.cons_ne_nil _ _
      simp [some, isBlankText, blank]

theorem trim_eq_nil_iff (text : List Char) : trim text = [] ↔ isBlankText text = true := by
  unfold trim isBlankText
  rw [List.reverse_eq_nil_iff, List.dropWhile_eq_nil_iff, List.all_eq_true]
  constructor
  · intro blanks c member
    by_contra letter
    have kept : c ∈ text.dropWhile isBlank := by
      rw [← List.takeWhile_append_dropWhile (p := isBlank) (l := text)] at member
      exact (List.mem_append.mp member).resolve_left fun taken => letter (List.mem_takeWhile_imp taken)
    exact letter (blanks c (List.mem_reverse.mpr kept))
  · intro blanks c member
    exact blanks c ((List.dropWhile_suffix _).subset (List.mem_reverse.mp member))

end SpinnerRemote.Text
