/-!
# Character classes

A class of characters is a list of inclusive ranges of code points. The classes of the Unicode
standard that the rules of this library ask about are such lists, each in a module named for its
property.
-/

namespace Intake.Text

/-- A set of characters, given by inclusive ranges of code points. -/
structure CharClass where
  ranges : List (Nat × Nat)

namespace CharClass

/-- The code point lies in one of the ranges. -/
def containsCode (k : CharClass) (code : Nat) : Bool :=
  k.ranges.any fun r => decide (r.1 ≤ code) && decide (code ≤ r.2)

/-- The character lies in one of the ranges. -/
def contains (k : CharClass) (c : Char) : Bool :=
  k.containsCode c.toNat

end CharClass

/-- A letter `A` to `Z` or `a` to `z`. -/
def isLatinLetter (c : Char) : Bool :=
  ('a' ≤ c && c ≤ 'z') || ('A' ≤ c && c ≤ 'Z')

/-- A digit `0` to `9`. -/
def isLatinDigit (c : Char) : Bool :=
  '0' ≤ c && c ≤ '9'

/-- A character that opens a name: a Latin letter or the underscore. -/
def isNameHead (c : Char) : Bool :=
  isLatinLetter c || c == '_'

/-- A character that goes on with a name. -/
def isNameTail (c : Char) : Bool :=
  isLatinLetter c || isLatinDigit c || c == '_'

end Intake.Text
