import Intake.Text.CharClass
import Intake.Text.Casing.Table

/-!
# Casing

Upper, lower, capitalized and titled text. A character may have a form of several characters, and
a capital sigma has a lower form of its own at the end of a word.
-/

namespace Intake.Text

namespace CaseRun

/-- The code point belongs to the run. -/
def covers (r : CaseRun) (code : Nat) : Bool :=
  decide (r.first ≤ code) && decide (code ≤ r.last) && (code - r.first) % r.step == 0

end CaseRun

/-- The form the runs give a character, the character itself when none covers it. -/
def formByRuns (runs : List CaseRun) (c : Char) : Char :=
  match runs.find? (·.covers c.toNat) with
  | some r => Char.ofNat (c.toNat + r.shift).toNat
  | none => c

/-- The listed form of a character. -/
def listedForm? (forms : List (Nat × List Nat)) (c : Char) : Option (List Char) :=
  (forms.find? (·.1 == c.toNat)).map fun f => f.2.map Char.ofNat

/-- The upper form of a character. -/
def upperForm (c : Char) : List Char :=
  (listedForm? CaseTable.upperLong c).getD [formByRuns CaseTable.upperRuns c]

/-- The lower form of a character out of context. -/
def lowerForm (c : Char) : List Char :=
  (listedForm? CaseTable.lowerLong c).getD [formByRuns CaseTable.lowerRuns c]

/-- The first character of the upper form. -/
def upperChar (c : Char) : Char :=
  (upperForm c).headD c

/-- The first character of the lower form. -/
def lowerChar (c : Char) : Char :=
  (lowerForm c).headD c

/-- The form of a character at the head of a word. -/
def titleForm (c : Char) : List Char :=
  (listedForm? CaseTable.titleOwn c).getD (upperForm c)

/-- The character has case. -/
def isCased (c : Char) : Bool :=
  CharClass.contains ⟨CaseTable.cased⟩ c

/-- The character is passed over when the letters around a capital sigma are looked for. -/
def isPassedOver (c : Char) : Bool :=
  CharClass.contains ⟨CaseTable.passedOver⟩ c

/-- A cased character comes first among those not passed over. -/
def meetsCased (s : List Char) : Bool :=
  match s.dropWhile isPassedOver with
  | c :: _ => isCased c
  | [] => false

/-- The capital sigma. -/
def capitalSigma : Char := Char.ofNat 0x3A3

/-- The small sigma inside a word and the one that ends it. -/
def smallSigma (final : Bool) : Char :=
  Char.ofNat (if final then 0x3C2 else 0x3C3)

/-- The lower form of a character between the text before it, reversed, and the text after it. A
    capital sigma ends a word when a cased character precedes it and none follows. -/
def lowerFormIn (before : List Char) (c : Char) (rest : List Char) : List Char :=
  if c == capitalSigma then [smallSigma (meetsCased before && !meetsCased rest)]
  else lowerForm c

/-- The lower form of a text that follows `before`, reversed. -/
def lowerFrom (before : List Char) : List Char → List Char
  | [] => []
  | c :: rest => lowerFormIn before c rest ++ lowerFrom (c :: before) rest

/-- The text in lower case. -/
def lower (s : List Char) : List Char :=
  lowerFrom [] s

/-- The text in upper case. -/
def upper (s : List Char) : List Char :=
  s.flatMap upperForm

/-- The first character in title form, the others in lower case. -/
def capitalize : List Char → List Char
  | [] => []
  | c :: rest => titleForm c ++ lowerFrom [c] rest

/-- The text that follows `before`, reversed, with each run of cased characters capitalized;
    `inWord` tells that the previous character is cased. -/
def titleFrom (before : List Char) (inWord : Bool) : List Char → List Char
  | [] => []
  | c :: rest =>
    (if inWord then lowerFormIn before c rest else titleForm c) ++
      titleFrom (c :: before) (isCased c) rest

/-- The text with each run of cased characters capitalized. -/
def title (s : List Char) : List Char :=
  titleFrom [] false s

/-- The string in lower case. -/
def lowerString (s : String) : String :=
  String.ofList (lower s.toList)

end Intake.Text
