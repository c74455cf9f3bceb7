import Intake.Text.CharClass
import Intake.Text.CharName.UpperPlanes
import Intake.Text.Pieces

/-!
# Characters by name

The character that a name stands for. Most names are listed, and are known in small letters as well.
The names of Hangul syllables are put together from the letters of the syllable, those of ideographs
from the code point; of the latter, only the compatibility ideographs and the characters of two
other scripts are known in small letters.
-/

namespace Intake.Text

/-- The code point that a name stands for in the run. -/
def NameRun.code? (r : NameRun) (name : List Char) : Option Nat :=
  if r.opening.toList.isPrefixOf name then
    let endings := r.endings.flatMap fun line => splitAt ',' line.toList
    (endings.idxOf? (name.drop r.opening.length)).map (r.first + ·)
  else none

namespace CharName

/-- What the names of Hangul syllables begin with. -/
def syllableOpening : List Char := "HANGUL SYLLABLE ".toList

/-- The consonants that a Hangul syllable may begin with. -/
def leadingLetters : List String :=
  ["G", "GG", "N", "D", "DD", "R", "M", "B", "BB", "S", "SS", "", "J", "JJ", "C", "K", "T", "P", "H"]

/-- The vowels of Hangul syllables. -/
def vowelLetters : List String :=
  ["A", "AE", "YA", "YAE", "EO", "E", "YEO", "YE", "O", "WA", "WAE", "OE", "YO", "U", "WEO", "WE",
   "WI", "YU", "EU", "YI", "I"]

/-- The consonants that a Hangul syllable may end with. -/
def trailingLetters : List String :=
  ["", "G", "GG", "GS", "N", "NJ", "NH", "D", "L", "LG", "LM", "LB", "LS", "LT", "LP", "LH", "M",
   "B", "BS", "S", "SS", "NG", "J", "C", "K", "T", "P", "H"]

/-- A letter that vowels are written with. -/
def isVowelLetter (c : Char) : Bool :=
  "AEIOUWY".toList.contains c

/-- The code point of the Hangul syllable with the letters. -/
def syllable? (letters : List Char) : Option Nat := do
  let behind := letters.dropWhile (!isVowelLetter ·)
  let leading ← leadingLetters.idxOf? (String.ofList (letters.takeWhile (!isVowelLetter ·)))
  let vowel ← vowelLetters.idxOf? (String.ofList (behind.takeWhile isVowelLetter))
  let trailing ← trailingLetters.idxOf? (String.ofList (behind.dropWhile isVowelLetter))
  return 0xAC00 + (leading * 21 + vowel) * 28 + trailing

/-- What the names of unified ideographs begin with. -/
def ideographOpening : List Char := "CJK UNIFIED IDEOGRAPH-".toList

/-- The unified ideographs. -/
def ideographs : CharClass :=
  ⟨[(0x3400, 0x4DBF), (0x4E00, 0x9FFF), (0x20000, 0x2A6DF), (0x2A700, 0x2B738),
   (0x2B740, 0x2B81D), (0x2B820, 0x2CEA1), (0x2CEB0, 0x2EBE0), (0x30000, 0x3134A)]⟩

/-- The value of a digit of base 16, whose letters are capitals. -/
def capitalDigit? (c : Char) : Option Nat :=
  if '0' ≤ c && c ≤ '9' then some (c.toNat - 48)
  else if 'A' ≤ c && c ≤ 'F' then some (c.toNat - 55)
  else none

/-- The number of four or five digits of base 16. -/
def codeOfDigits? (digits : List Char) : Option Nat :=
  if digits.length = 4 || digits.length = 5 then
    (digits.mapM capitalDigit?).map fun ds => ds.foldl (fun n d => 16 * n + d) 0
  else none

/-- The scripts whose characters are named by their code points, with what the names begin with. -/
def codedScripts : List (String × CharClass) :=
  [("CJK COMPATIBILITY IDEOGRAPH-", ⟨[(0xF900, 0xFA6D), (0xFA70, 0xFAD9), (0x2F800, 0x2FA1D)]⟩),
   ("KHITAN SMALL SCRIPT CHARACTER-", ⟨[(0x18B00, 0x18CD5)]⟩),
   ("NUSHU CHARACTER-", ⟨[(0x1B170, 0x1B2FB)]⟩)]

/-- The code point in the name of a character of such a script, written without leading zeros. -/
def coded? (name : List Char) : Option Nat :=
  codedScripts.findSome? fun (opening, script) =>
    if opening.toList.isPrefixOf name then
      let digits := name.drop opening.length
      (codeOfDigits? digits).filter fun code => script.containsCode code && digits.head? != some '0'
    else none

/-- The code point that a listed name stands for. -/
def listed? (name : List Char) : Option Nat :=
  (basicNames ++ upperNames ++ otherNames).findSome? (·.code? name)

end CharName

open CharName in
/-- The code point of the character that a name stands for. -/
def codeNamed? (name : List Char) : Option Nat :=
  if syllableOpening.isPrefixOf name then syllable? (name.drop syllableOpening.length)
  else if ideographOpening.isPrefixOf name then
    (codeOfDigits? (name.drop ideographOpening.length)).filter ideographs.containsCode
  else
    let capitals := name.map Char.toUpper
    (coded? capitals).or (listed? capitals)

end Intake.Text
