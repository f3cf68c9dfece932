import ModelBench.Text.Ranges

/-!
# Blanks

The characters that separate words, and trimming them off both ends of a text.
-/

namespace ModelBench.Text

/-- The code points of blanks, in ascending ranges, as of Unicode 15.0. -/
def blankRanges : Ranges :=
  [ (0x9, 0xD), (0x20, 0x20), (0x85, 0x85), (0xA0, 0xA0), (0x1680, 0x1680), (0x2000, 0x200A),
    (0x2028, 0x2029), (0x202F, 0x202F), (0x205F, 0x205F), (0x3000, 0x3000) ]

/-- Whether a character is a blank. -/
def isBlank (c : Char) : Bool := blankRanges.contains c

/-- The text without the blanks it starts with. -/
def trimStart (text : List Char) : List Char := text.dropWhile isBlank

/-- The text without the blanks it ends with. -/
def trimEnd (text : List Char) : List Char := (text.reverse.dropWhile isBlank).reverse

/-- The text without the blanks on either side. -/
def trim (text : List Char) : List Char := trimEnd (trimStart text)

/-- Whether a string has no character but blanks. -/
def isBlankString (s : String) : Bool := s.toList.all isBlank

/-- The maximal runs of other characters, `word` being the one that is under way. -/
def wordsAfter : (word : List Char) → List Char → List (List Char)
  | [], [] => []
  | word, [] => [word.reverse]
  | word, c :: rest =>
    if isBlank c then
      if word.isEmpty then wordsAfter [] rest else word.reverse :: wordsAfter [] rest
    else wordsAfter (c :: word) rest

/-- The words of a text: its maximal runs of characters that are no blanks. -/
def words (text : List Char) : List (List Char) := wordsAfter [] text

end ModelBench.Text
