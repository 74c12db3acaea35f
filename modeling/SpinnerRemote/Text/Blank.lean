/-!
Blanks and the words between them. A blank is a character with the Unicode property `White_Space`.
-/
namespace SpinnerRemote.Text

def isBlank (c : Char) : Bool :=
  let n := c.toNat
  (0x09 ≤ n && n ≤ 0x0D) || n == 0x20 || n == 0x85 || n == 0xA0 || n == 0x1680 ||
    (0x2000 ≤ n && n ≤ 0x200A) || n == 0x2028 || n == 0x2029 || n == 0x202F || n == 0x205F ||
    n == 0x3000

/-- The words of a text: its longest runs without a blank, in order. -/
def words : List Char → List (List Char)
  | [] => []
  | c :: rest =>
    if isBlank c then words rest
    else
      match rest with
      | [] => [[c]]
      | d :: _ =>
        match isBlank d, words rest with
        | false, word :: others => (c :: word) :: others
        | _, others => [c] :: others

def isBlankText (text : List Char) : Bool := text.all isBlank

def trim (text : List Char) : List Char :=
  ((text.dropWhile isBlank).reverse.dropWhile isBlank).reverse

def lowerAscii (text : List Char) : List Char := text.map Char.toLower

end SpinnerRemote.Text
