/-!
# Blank characters

The blank characters are the ASCII and Unicode spaces and line ends together
with the four information separators U+001C to U+001F.  Cutting a text into
words and trimming it are both defined by this one class.
-/

namespace TapeMachine
namespace Text

def isBlank (c : Char) : Bool :=
  let n := c.toNat
  (decide (0x9 <= n) && decide (n <= 0xD)) ||
    (decide (0x1C <= n) && decide (n <= 0x20)) ||
    n == 0x85 || n == 0xA0 || n == 0x1680 ||
    (decide (0x2000 <= n) && decide (n <= 0x200A)) ||
    n == 0x2028 || n == 0x2029 || n == 0x202F || n == 0x205F || n == 0x3000

/-- Whether a character may surround a written number: a blank that is not one
of the information separators. -/
def isNumberBlank (c : Char) : Bool :=
  isBlank c && !(decide (0x1C <= c.toNat) && decide (c.toNat <= 0x1F))

/-!
## Trimming
-/

def trimBy (p : Char -> Bool) (s : List Char) : List Char :=
  ((s.dropWhile p).reverse.dropWhile p).reverse

def trim (s : List Char) : List Char :=
  trimBy isBlank s

/-- The pieces of a text between the characters `sep`. -/
def splitAt (sep : Char) : List Char -> List (List Char)
  | [] => [[]]
  | c :: rest =>
      match splitAt sep rest with
      | piece :: pieces => if c == sep then [] :: piece :: pieces else (c :: piece) :: pieces
      | [] => [[c]]

/-!
## Words
-/

/-- The words of a text whose last word so far is `current`. -/
def wordsFrom (current : List Char) : List Char -> List (List Char)
  | [] => if current.isEmpty then [] else [current]
  | c :: rest =>
      if isBlank c then
        if current.isEmpty then wordsFrom [] rest else current :: wordsFrom [] rest
      else
        wordsFrom (current ++ [c]) rest

/-- The maximal runs of characters that are not blank, in order. -/
def words (s : List Char) : List (List Char) :=
  wordsFrom [] s

end Text
end TapeMachine
