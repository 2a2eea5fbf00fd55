/-!
# Blanks, trimming and words

A blank is a character with the Unicode property White_Space. Trimming removes
blanks at both ends; the words of a text are its maximal runs without blanks.
-/

namespace GridSql.Text

/-- The characters with the Unicode property White_Space. -/
def isBlank (c : Char) : Bool :=
  let code := c.toNat
  (0x09 ≤ code && code ≤ 0x0D) || code == 0x20 || code == 0x85 || code == 0xA0 ||
    code == 0x1680 || (0x2000 ≤ code && code ≤ 0x200A) || code == 0x2028 ||
    code == 0x2029 || code == 0x202F || code == 0x205F || code == 0x3000

def skipBlanks (cs : List Char) : List Char :=
  cs.dropWhile isBlank

def dropTrailingBlanks (cs : List Char) : List Char :=
  (cs.reverse.dropWhile isBlank).reverse

/-- The text without the blanks at both ends. -/
def trimChars (cs : List Char) : List Char :=
  dropTrailingBlanks (skipBlanks cs)

/-- The text without the blanks at both ends. -/
def trim (s : String) : String :=
  String.ofList (trimChars s.toList)

/-- Splits into words; `current` is the reversed word that is being read. -/
def wordsAux (current : List Char) : List Char → List (List Char)
  | [] => if current.isEmpty then [] else [current.reverse]
  | c :: rest =>
      if isBlank c then
        if current.isEmpty then wordsAux [] rest
        else current.reverse :: wordsAux [] rest
      else
        wordsAux (c :: current) rest

/-- The maximal runs of characters that are not blanks, in order. -/
def words (s : String) : List String :=
  (wordsAux [] s.toList).map String.ofList

end GridSql.Text
