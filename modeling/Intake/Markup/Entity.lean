import Intake.Markup.Entity.Table
import Intake.Net.Address
import Intake.Number.Reading

/-!
# Character references

A character reference stands for a character by its number or its name. The semicolon that closes
it may be missing behind a number and behind some of the names; a longer name that is not known is
read by the longest known name it begins with.
-/

namespace Intake.Markup

open Intake.Text

/-- Why a text is not read as markup. -/
inductive Flaw where
  | nameExpected (text : List Char)
  | unknownSection (text : List Char)
  | tooManyDigits (count : Nat)
  deriving DecidableEq

namespace Entity

/-- The text of code points. -/
def textOf (codes : List Nat) : List Char :=
  codes.map Char.ofNat

/-- The text a known name stands for; the name ends in a semicolon unless it may do without. -/
def lookup? (name : List Char) : Option (List Char) :=
  if name.getLast? == some ';' then
    let key := String.ofList name.dropLast
    ((markupNames.lookup key).or ((openNames.lookup key).or (closedNames.lookup key))).map textOf
  else
    let key := String.ofList name
    ((markupNames.lookup key).or (openNames.lookup key)).map textOf

/-- The longest known name of at most `count` characters that the text begins with, and the rest of
    the text behind what it stands for. Names have two characters at least. -/
def longest? (name : List Char) : Nat → Option (List Char)
  | 0 => none
  | 1 => none
  | count + 1 =>
    match lookup? (name.take (count + 1)) with
    | some text => some (text ++ name.drop (count + 1))
    | none => longest? name count

/-- The text of a named reference, without its ampersand. -/
def named (name : List Char) : List Char :=
  match lookup? name with
  | some text => text
  | none => (longest? name (name.length - 1)).getD ('&' :: name)

/-- The characters that the numbers from 128 to 159 stand for. -/
def shifted : List Nat :=
  [0x20AC, 0x81, 0x201A, 0x192, 0x201E, 0x2026, 0x2020, 0x2021, 0x2C6, 0x2030, 0x160, 0x2039,
   0x152, 0x8D, 0x17D, 0x8F, 0x90, 0x2018, 0x2019, 0x201C, 0x201D, 0x2022, 0x2013, 0x2014, 0x2DC,
   0x2122, 0x161, 0x203A, 0x153, 0x9D, 0x17E, 0x178]

/-- The number stands for no character at all: a control or a code point outside the text. -/
def isSilent (n : Nat) : Bool :=
  (1 ≤ n && n ≤ 8) || n == 0xB || (0xE ≤ n && n ≤ 0x1F) || (0x7F ≤ n && n ≤ 0x9F) ||
    (0xFDD0 ≤ n && n ≤ 0xFDEF) || n % 0x10000 == 0xFFFE || n % 0x10000 == 0xFFFF

/-- The text of a numbered reference. -/
def numbered (n : Nat) : List Char :=
  if n = 0 then [Char.ofNat 0xFFFD]
  else if n = 0xD then ['\r']
  else if 0x80 ≤ n && n ≤ 0x9F then [Char.ofNat (shifted.getD (n - 0x80) 0)]
  else if (0xD800 ≤ n && n ≤ 0xDFFF) || 0x10FFFF < n then [Char.ofNat 0xFFFD]
  else if isSilent n then []
  else [Char.ofNat n]

/-- What a text begins with: one semicolon or none. -/
def closingLength (s : List Char) : Nat :=
  if s.head? == some ';' then 1 else 0

/-- A character of a name. -/
def isNameChar (c : Char) : Bool :=
  !(c == '\t' || c == '\n' || c.toNat == 12 || c == ' ' || c == '<' || c == '&' || c == '#' ||
    c == ';')

/-- The text of the reference that `s`, behind an ampersand, begins with, and its length. -/
def reference? (s : List Char) : Except Flaw (Option (List Char × Nat)) :=
  match s with
  | '#' :: rest =>
    let digits := rest.takeWhile isLatinDigit
    if !digits.isEmpty then
      if Number.digitLimit < digits.length then .error (.tooManyDigits digits.length)
      else
        .ok (some (numbered (Net.digitsValue digits),
          1 + digits.length + closingLength (rest.drop digits.length)))
    else
      match rest with
      | x :: rest =>
        let digits := rest.takeWhile Net.isHexDigit
        if (x == 'x' || x == 'X') && !digits.isEmpty then
          let n := Number.ofDigits 16 (digits.filterMap (Number.baseDigit? 16))
          .ok (some (numbered n, 2 + digits.length + closingLength (rest.drop digits.length)))
        else .ok none
      | [] => .ok none
  | _ =>
    let name := (s.take 32).takeWhile isNameChar
    if name.isEmpty then .ok none
    else
      let closing := closingLength (s.drop name.length)
      .ok (some (named (s.take (name.length + closing)), name.length + closing))

/-- The text with its references replaced, where the first `skip` characters belong to a reference
    already replaced. -/
def decodeFrom (skip : Nat) : List Char → Except Flaw (List Char)
  | [] => .ok []
  | c :: rest =>
    match skip with
    | n + 1 => decodeFrom n rest
    | 0 =>
      if c == '&' then
        match reference? rest with
        | .error e => .error e
        | .ok (some (text, length)) => (decodeFrom length rest).map (text ++ ·)
        | .ok none => (decodeFrom 0 rest).map (c :: ·)
      else (decodeFrom 0 rest).map (c :: ·)

/-- The text with its references replaced. -/
def decode (s : List Char) : Except Flaw (List Char) :=
  decodeFrom 0 s

/-- The reference written for a character that markup is made of; quotes count where `quotes`
    tells. -/
def encodeChar (quotes : Bool) (c : Char) : List Char :=
  match c with
  | '&' => "&amp;".toList
  | '<' => "&lt;".toList
  | '>' => "&gt;".toList
  | '"' => if quotes then "&quot;".toList else [c]
  | '\'' => if quotes then "&#x27;".toList else [c]
  | _ => [c]

/-- The text with references for the characters that markup is made of. -/
def encode (quotes : Bool) (s : List Char) : List Char :=
  s.flatMap (encodeChar quotes)

end Entity

end Intake.Markup
