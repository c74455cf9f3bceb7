import Intake.Text.CharClass

/-!
# Blanks

The characters that count as blank, and what is cut at them: the ends of a text (`trim`) and the
words between them (`words`).
-/

namespace Intake.Text

/-- Separators, line breaks and the four information separators of ASCII. -/
def blanks : CharClass :=
  ⟨[(0x9, 0xD), (0x1C, 0x20), (0x85, 0x85), (0xA0, 0xA0), (0x1680, 0x1680), (0x2000, 0x200A),
   (0x2028, 0x2029), (0x202F, 0x202F), (0x205F, 0x205F), (0x3000, 0x3000)]⟩

/-- The character is blank. -/
def isBlank (c : Char) : Bool :=
  blanks.contains c

/-- The text without the blanks it opens with. -/
def trimLeft (s : List Char) : List Char :=
  s.dropWhile isBlank

/-- The text without the blanks it closes with. -/
def trimRight (s : List Char) : List Char :=
  (s.reverse.dropWhile isBlank).reverse

/-- The text without the blanks at both ends. -/
def trim (s : List Char) : List Char :=
  trimRight (trimLeft s)

/-- The text holds no character but blanks. -/
def allBlank (s : List Char) : Bool :=
  s.all isBlank

/-- The nonempty pieces between blanks, where `word` is the reversed piece being read. -/
def wordsFrom (word : List Char) : List Char → List (List Char)
  | [] => if word.isEmpty then [] else [word.reverse]
  | c :: rest =>
    if isBlank c then
      if word.isEmpty then wordsFrom [] rest else word.reverse :: wordsFrom [] rest
    else wordsFrom (c :: word) rest

/-- The nonempty pieces between blanks. -/
def words (s : List Char) : List (List Char) :=
  wordsFrom [] s

/-- The text without one line break at its very end. -/
def dropFinalBreak (s : List Char) : List Char :=
  if s.getLast? = some '\n' then s.dropLast else s

end Intake.Text
